import Nativize.Conversion.Pass

/-!
# Running passes

How the steps of a pass act on the program. A pass is opened by these laws and never by the
definition of its monad.
-/

namespace Nativize.Conversion

open Syntax

namespace Pass

variable {α β : Type}

@[simp] theorem apply_pure (a : α) (t : Ast) : (pure a : Pass α).apply t = (.ok a, t) := rfl

@[simp] theorem apply_bind (m : Pass α) (f : α → Pass β) (t : Ast) :
    (m >>= f).apply t =
      match m.apply t with
      | (.ok a, t') => (f a).apply t'
      | (.error e, t') => (.error e, t') := by
  change (m >>= f).run t = _
  unfold apply
  simp only [bind, ExceptT.bind, ExceptT.mk, StateT.bind, ExceptT.run]
  cases m t with
  | mk r t' => cases r <;> rfl

@[simp] theorem apply_get (t : Ast) : (get : Pass Ast).apply t = (.ok t, t) := rfl

@[simp] theorem apply_set (t t' : Ast) : (set t' : Pass PUnit).apply t = (.ok ⟨⟩, t') := rfl

@[simp] theorem apply_throw (e : Failure) (t : Ast) :
    (throw e : Pass α).apply t = (.error e, t) := rfl

@[simp] theorem apply_getStatements (t : Ast) :
    getStatements.apply t = (.ok (statements t), t) := rfl

@[simp] theorem apply_setStatements (parts : List Ast) (t : Ast) :
    (setStatements parts).apply t = (.ok (), withStatements t parts) := rfl

@[simp] theorem apply_check_none (t : Ast) : (check none).apply t = (.ok (), t) := rfl

@[simp] theorem apply_check_some (b : Breach) (t : Ast) :
    (check (some b)).apply t = (.error (.structural b), t) := rfl

/-- A check goes on when there is no breach. -/
theorem apply_check_ok {b : Option Breach} {t t' : Ast} {u : Unit}
    (h : (check b).apply t = (.ok u, t')) : b = none ∧ t' = t := by
  cases b with
  | none => exact ⟨rfl, (Prod.mk.inj h).2.symm⟩
  | some b => cases h

@[simp] theorem apply_require_ok (a : α) (t : Ast) :
    (require (.ok a)).apply t = (.ok a, t) := rfl

@[simp] theorem apply_require_error (fault : ProfileFault) (t : Ast) :
    (require (.error fault) : Pass α).apply t = (.error (.profile fault), t) := rfl

theorem apply_eq_of_ok {m : Pass α} {t : Ast} {a : α} (h : (m.apply t).1 = .ok a) :
    m.apply t = (.ok a, (m.apply t).2) :=
  Prod.ext h rfl

/-- The pass fails for no other cause. -/
def FailsOnlyBy (cause : Failure → Prop) (m : Pass α) : Prop :=
  ∀ t e t', m.apply t = (.error e, t') → cause e

section FailsOnlyBy

variable {cause : Failure → Prop} {m : Pass α} {f : α → Pass β}

theorem failsOnlyBy_of_ok (h : ∀ t, ∃ a, (m.apply t).1 = .ok a) : FailsOnlyBy cause m := by
  intro t e t' happly
  obtain ⟨a, ha⟩ := h t
  rw [happly] at ha
  cases ha

theorem FailsOnlyBy.bind (hm : FailsOnlyBy cause m) (hf : ∀ a, FailsOnlyBy cause (f a)) :
    FailsOnlyBy cause (m >>= f) := by
  intro t e t' h
  rw [apply_bind] at h
  split at h
  · exact hf _ _ _ _ h
  · next hfails =>
    cases h
    exact hm _ _ _ hfails

theorem failsOnlyBy_pure (a : α) : FailsOnlyBy cause (pure a : Pass α) :=
  failsOnlyBy_of_ok fun _ => ⟨a, rfl⟩

theorem failsOnlyBy_require (value : Except ProfileFault α) :
    FailsOnlyBy (fun e => ∃ fault, e = .profile fault) (require value) := by
  intro t e t' h
  cases value with
  | ok a => cases h
  | error fault =>
    cases h
    exact ⟨fault, rfl⟩

end FailsOnlyBy

/-- A sequence of two passes succeeds when both do. -/
theorem apply_bind_ok {m : Pass α} {f : α → Pass β} {t t' : Ast} {b : β}
    (h : (m >>= f).apply t = (.ok b, t')) :
    ∃ a u, m.apply t = (.ok a, u) ∧ (f a).apply u = (.ok b, t') := by
  rw [apply_bind] at h
  split at h
  · exact ⟨_, _, by assumption, h⟩
  · cases h

end Pass

@[simp] theorem statements_program (h d c l) (parts : List Ast) :
    statements (.node (.program h d c) l parts) = parts := rfl

@[simp] theorem withStatements_program (h d c l) (old parts : List Ast) :
    withStatements (.node (.program h d c) l old) parts = .node (.program h d c) l parts := rfl

@[simp] theorem withStatements_withStatements (t : Ast) (xs ys : List Ast) :
    withStatements (withStatements t xs) ys = withStatements t ys := by
  fun_cases withStatements t xs <;> rfl

theorem withStatements_statements (t : Ast) : withStatements t (statements t) = t := by
  fun_cases withStatements t (statements t) <;> rfl

end Nativize.Conversion
