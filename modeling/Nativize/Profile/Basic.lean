import Nativize.OrderedMap

/-!
# Conversion profiles

A profile names everything that a conversion takes from its target platform: the names that several
passes agree on, one for each `Role`, and the tables that single passes look things up in. Another
platform is described by another profile.
-/

namespace Nativize

/-- The part that a name plays. One pass introduces the name and another relies on it. -/
inductive Role where
  | baseModule
  | webRouterModule
  | platformRouterModule
  | platformUiModule
  | navigationHook
  | routerHook
  | routerBinding
  | navigateMember
  | stylesBinding
  | stylesheetApi
  | stylesheetCreate
  | secureStoreModule
  | secureStoreNamespace
  | fontModule
  | fontHook
  | fontsLoadedBinding
  | webStorage
  | pressableComponent
  | textInputComponent
  | classAttribute
  | styleAttribute
  | clickAttribute
  | pressAttribute
  | changeAttribute
  | changeTextAttribute
deriving DecidableEq, Repr

namespace Role

/-- All roles, in the order in which a profile lists them. -/
def all : List Role :=
  [baseModule, webRouterModule, platformRouterModule, platformUiModule, navigationHook, routerHook,
   routerBinding, navigateMember, stylesBinding, stylesheetApi, stylesheetCreate, secureStoreModule,
   secureStoreNamespace, fontModule, fontHook, fontsLoadedBinding, webStorage, pressableComponent,
   textInputComponent, classAttribute, styleAttribute, clickAttribute, pressAttribute,
   changeAttribute, changeTextAttribute]

theorem mem_all (r : Role) : r ∈ all := by cases r <;> decide

/-- The key of a role in a profile document. -/
def key : Role → String
  | baseModule => "baseModule"
  | webRouterModule => "webRouterModule"
  | platformRouterModule => "platformRouterModule"
  | platformUiModule => "platformUiModule"
  | navigationHook => "navigationHook"
  | routerHook => "routerHook"
  | routerBinding => "routerBinding"
  | navigateMember => "navigateMember"
  | stylesBinding => "stylesBinding"
  | stylesheetApi => "stylesheetApi"
  | stylesheetCreate => "stylesheetCreate"
  | secureStoreModule => "secureStoreModule"
  | secureStoreNamespace => "secureStoreNamespace"
  | fontModule => "fontModule"
  | fontHook => "fontHook"
  | fontsLoadedBinding => "fontsLoadedBinding"
  | webStorage => "webStorage"
  | pressableComponent => "pressableComponent"
  | textInputComponent => "textInputComponent"
  | classAttribute => "classAttribute"
  | styleAttribute => "styleAttribute"
  | clickAttribute => "clickAttribute"
  | pressAttribute => "pressAttribute"
  | changeAttribute => "changeAttribute"
  | changeTextAttribute => "changeTextAttribute"

/-- The name of a role in the default profile. -/
def defaultName : Role → String
  | baseModule => "react"
  | webRouterModule => "react-router-dom"
  | platformRouterModule => "expo-router"
  | platformUiModule => "react-native"
  | navigationHook => "useNavigate"
  | routerHook => "useRouter"
  | routerBinding => "router"
  | navigateMember => "navigate"
  | stylesBinding => "styles"
  | stylesheetApi => "StyleSheet"
  | stylesheetCreate => "create"
  | secureStoreModule => "expo-secure-store"
  | secureStoreNamespace => "SecureStore"
  | fontModule => "expo-font"
  | fontHook => "useFonts"
  | fontsLoadedBinding => "fontsLoaded"
  | webStorage => "localStorage"
  | pressableComponent => "TouchableOpacity"
  | textInputComponent => "TextInput"
  | classAttribute => "className"
  | styleAttribute => "style"
  | clickAttribute => "onClick"
  | pressAttribute => "onPress"
  | changeAttribute => "onChange"
  | changeTextAttribute => "onChangeText"

end Role

/-- The names of a profile. -/
abbrev Names := Role → String

/-- The names with one of them replaced. -/
def Names.update (names : Names) (role : Role) (name : String) : Names :=
  fun r => if r = role then name else names r

/-- A font to load: the family it is known by, and the path of its file. -/
structure FontFace where
  family : String
  path : String
deriving DecidableEq, Repr

/-- The tables that passes look things up in. -/
structure Tables where
  /-- The platform component of a web tag. -/
  tagMap : OrderedMap String
  /-- The platform property of a style property. An empty target drops the property. -/
  propertyRenames : OrderedMap String
  /-- The camel-cased properties that are kept without a rename. -/
  allowedProperties : List String
  /-- The components whose use as a tag needs an import. -/
  recognizedComponents : List String
  /-- The identifiers whose bare reference needs an import. -/
  referencedIdentifiers : List String
  stylesheetExtensions : List String
  imageExtensions : List String
  assetDirectory : String
  /-- The methods of the web storage that are forwarded to the secure store. -/
  storageMethods : List String
  fontFaces : List FontFace
  /-- The functions that load the fonts. -/
  fontTargets : List String
  /-- The text of the type declaration that follows the imports. -/
  typeDeclaration : String
deriving DecidableEq, Repr

/-- A field of the tables. -/
inductive TableField where
  | tagMap
  | propertyRenames
  | allowedProperties
  | recognizedComponents
  | referencedIdentifiers
  | stylesheetExtensions
  | imageExtensions
  | assetDirectory
  | storageMethods
  | fontFaces
  | fontTargets
  | typeDeclaration
deriving DecidableEq, Repr

namespace TableField

/-- All fields, in the order in which a profile lists them. -/
def all : List TableField :=
  [tagMap, propertyRenames, allowedProperties, recognizedComponents, referencedIdentifiers,
   stylesheetExtensions, imageExtensions, assetDirectory, storageMethods, fontFaces, fontTargets,
   typeDeclaration]

theorem mem_all (f : TableField) : f ∈ all := by cases f <;> decide

/-- The key of a field in a profile document. -/
def key : TableField → String
  | tagMap => "tagMap"
  | propertyRenames => "propertyRenames"
  | allowedProperties => "allowedProperties"
  | recognizedComponents => "recognizedComponents"
  | referencedIdentifiers => "referencedIdentifiers"
  | stylesheetExtensions => "stylesheetExtensions"
  | imageExtensions => "imageExtensions"
  | assetDirectory => "assetDirectory"
  | storageMethods => "storageMethods"
  | fontFaces => "fontFaces"
  | fontTargets => "fontTargets"
  | typeDeclaration => "typeDeclaration"

end TableField

namespace Tables

def defaultTagMap : OrderedMap String :=
  ⟨[("div", "View"), ("button", "TouchableOpacity"), ("img", "Image"), ("span", "Text"),
    ("input", "TextInput")]⟩

def defaultPropertyRenames : OrderedMap String :=
  ⟨[("background", "background"), ("background-color", "backgroundColor"), ("color", "color"),
    ("display", "display"), ("font-size", "fontSize"), ("font-family", "fontFamily"),
    ("font-weight", "fontWeight"), ("flex-direction", "flexDirection"),
    ("justify-content", "justifyContent"), ("justify-items", "justifyItems"),
    ("align-items", "alignItems"), ("padding", "padding"), ("padding-top", "paddingTop"),
    ("padding-bottom", "paddingBottom"), ("padding-left", "paddingLeft"),
    ("padding-right", "paddingRight"), ("margin", "margin"), ("margin-top", "marginTop"),
    ("margin-bottom", "marginBottom"), ("margin-left", "marginLeft"),
    ("margin-right", "marginRight"), ("border-radius", "borderRadius"), ("border", "border"),
    ("height", "height"), ("width", "width"), ("position", "position"), ("top", "top"),
    ("left", "left"), ("right", "right"), ("bottom", "bottom"), ("cursor", "")]⟩

def defaultAllowedProperties : List String :=
  ["display", "flex", "flexDirection", "maxWidth", "maxHeight", "backgroundColor", "background",
   "color", "fontSize", "fontFamily", "fontWeight", "justifyContent", "justifyItems", "alignItems",
   "padding", "paddingTop", "paddingBottom", "paddingLeft", "paddingRight", "margin", "marginTop",
   "marginBottom", "marginLeft", "marginRight", "borderRadius", "border", "height", "width",
   "position", "top", "left", "right", "bottom", "textAlign", "minWidth", "minHeight", "overflowY",
   "boxShadow"]

def defaultFontFaces : List FontFace :=
  [⟨"Poppins-Regular", "../assets/fonts/Poppins-Regular.ttf"⟩,
   ⟨"Poppins-Light", "../assets/fonts/Poppins-Light.ttf"⟩,
   ⟨"Poppins-Medium", "../assets/fonts/Poppins-Medium.ttf"⟩,
   ⟨"Poppins-Bold", "../assets/fonts/Poppins-Bold.ttf"⟩]

def defaultTypeDeclaration : String :=
  "interface Transaction \x7b
  type: \"deposit\" | \"withdraw\" | \"message\";
  amount: number;
  timeSpan: string;
  direction: \"incoming\" | \"outgoing\";
  description: string | undefined;
  message: \x7b
    content: string;
  \x7d | undefined;
\x7d"

/-- The tables of the default profile. -/
protected def default : Tables where
  tagMap := defaultTagMap
  propertyRenames := defaultPropertyRenames
  allowedProperties := defaultAllowedProperties
  recognizedComponents :=
    ["View", "Text", "TextInput", "TouchableOpacity", "FlatList", "ScrollView", "Alert", "Image"]
  referencedIdentifiers := ["Alert", "FlatList", "StyleSheet"]
  stylesheetExtensions := [".css"]
  imageExtensions := [".svg", ".png", ".jpg", ".jpeg", ".gif", ".webp"]
  assetDirectory := "../assets/images"
  storageMethods := ["getItem"]
  fontFaces := defaultFontFaces
  fontTargets := ["WalletScreen", "Balance"]
  typeDeclaration := defaultTypeDeclaration

/-- The text ends in one of the endings. -/
def endsInOneOf (endings : List String) (text : String) : Bool :=
  endings.any fun ending => ending.toList.isSuffixOf text.toList

def isStylesheet (t : Tables) (specifier : String) : Bool :=
  endsInOneOf t.stylesheetExtensions specifier

def isImage (t : Tables) (specifier : String) : Bool := endsInOneOf t.imageExtensions specifier

def isRecognized (t : Tables) (name : String) : Bool := t.recognizedComponents.contains name

end Tables

/-- A conversion profile. -/
structure Profile where
  names : Names
  tables : Tables

/-- The default profile. -/
protected def Profile.default : Profile := ⟨Role.defaultName, .default⟩

instance : Inhabited Profile := ⟨.default⟩

end Nativize
