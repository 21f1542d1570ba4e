import VulkanWire.Command.Run
import VulkanWire.Proofs.Output.Trail

/-!
# Sessions on a disk

A command runs on a disk step by step: it prints, asks the disk something or
hands over to a generation, and stops at the first fault. Everything a command
does before it generates only looks at the disk.

## Main definitions

* `OnDisk.Looks` — programs that leave every disk as it is, with what is known of
  their answers.
* `Session.exec` — a session on a disk, with what was printed before.
* `Session.Keeps` — sessions that leave every disk as it is.

## Main results

* `looks_resolveConfig`, `looks_loadSchema`, `looks_regenerationCommand` — what
  precedes a generation only looks.
-/

namespace VulkanWire

/-! ## Programs that only look -/

namespace OnDisk

/-- A program that leaves every disk as it is, and what is known of its answer. -/
def Looks {α : Type} (x : OnDisk α) (P : α → Prop) : Prop := ∀ d, ∃ a, x.run d = (a, d) ∧ P a

variable {α β : Type} {P : α → Prop} {Q : β → Prop}

theorem looks_pure {a : α} (h : P a) : Looks (pure a) P := fun _ => ⟨a, rfl, h⟩

theorem looks_bind {x : OnDisk α} {f : α → OnDisk β} (hx : Looks x P)
    (hf : ∀ a, P a → Looks (f a) Q) : Looks (x >>= f) Q := by
  intro d
  obtain ⟨a, hfirst, ha⟩ := hx d
  obtain ⟨b, hrest, hb⟩ := hf a ha d
  exact ⟨b, (run_bind hfirst).trans hrest, hb⟩

theorem looks_present (p : Path) : Looks (Storage.present p : OnDisk _) fun _ => True :=
  fun _ => ⟨_, rfl, trivial⟩

theorem looks_readText (p : Path) : Looks (Storage.readText p : OnDisk _) fun _ => True :=
  fun _ => ⟨_, rfl, trivial⟩

theorem looks_workingDir : Looks (Storage.workingDir : OnDisk _) fun _ => True :=
  fun _ => ⟨_, rfl, trivial⟩

end OnDisk

open OnDisk

theorem looks_loadConfig (asked : Option Path) :
    Looks (loadConfig asked : OnDisk _) fun _ => True := by
  refine looks_bind (looks_present _) fun there _ => ?_
  cases there with
  | true =>
      refine looks_bind (looks_readText _) fun text _ => ?_
      cases text <;> exact looks_pure trivial
  | false => cases asked <;> exact looks_pure trivial

theorem suppress_withoutEmptySuppression (c : Config) :
    c.withoutEmptySuppression.generation.suppress ≠ some "" := by
  rw [Config.withoutEmptySuppression]
  split
  · simp
  · assumption

/-- In a resolved configuration the module to keep is not the empty one. -/
theorem looks_resolveConfig (asked : Option Path) (env : EnvOverrides) (args : ArgOverrides) :
    Looks (resolveConfig asked env args : OnDisk _)
      fun result => ∀ c, result = .ok c → c.generation.suppress ≠ some "" := by
  refine looks_bind (looks_loadConfig asked) fun loaded _ => ?_
  cases loaded with
  | error fault => exact looks_pure (by simp)
  | ok c =>
      dsimp only
      have hlayered : ∀ c', c.layered? env args = .ok c' → c'.generation.suppress ≠ some "" := by
        intro c' h
        rw [Config.layered?] at h
        split at h
        · cases h
        · cases h
          exact suppress_withoutEmptySuppression _
      cases h : c.layered? env args with
      | error fault => exact looks_pure (by simp)
      | ok c' =>
          refine looks_pure ?_
          intro c'' hc
          cases hc
          exact hlayered c' h

/-- A loaded schema is valid. -/
theorem looks_loadSchema (path : Path) :
    Looks (loadSchema path : OnDisk _)
      fun result => ∀ s, result = .ok s → s.validate = .ok () := by
  refine looks_bind (looks_present _) fun there _ => ?_
  cases there with
  | false => exact looks_pure (by simp)
  | true =>
      refine looks_bind (looks_readText _) fun read _ => ?_
      cases read with
      | error cause => exact looks_pure (by simp)
      | ok text =>
          refine looks_pure ?_
          intro s h
          rw [Schema.parse] at h
          split at h
          · cases h
          · split at h
            · rename_i hvalid
              cases h
              exact hvalid
            · cases h

theorem looks_bannerArguments (workingDir : Path) (args : List String) :
    Looks (bannerArguments workingDir args : OnDisk _) fun _ => True := by
  induction args with
  | nil => exact looks_pure trivial
  | cons arg args ih =>
      refine looks_bind (P := fun _ => True) ?_ fun first _ =>
        looks_bind ih fun others _ => looks_pure trivial
      refine looks_bind (looks_present _) fun there _ => ?_
      cases there <;> exact looks_pure trivial

theorem looks_regenerationCommand (workingDir schema : Path) :
    Looks (regenerationCommand workingDir schema : OnDisk _) fun _ => True :=
  looks_bind (looks_bannerArguments _ _) fun _ _ => looks_pure trivial

/-! ## Sessions -/

namespace Session

variable {α β φ : Type}

/-- A session on a disk, with what was printed before. -/
def exec (x : Session OnDisk α) (printed : List String) (d : Disk) :
    (Except ToolFault α × List String) × Disk :=
  ((ExceptT.run x).run printed : OnDisk _).run d

variable {x : Session OnDisk α} {f : α → Session OnDisk β} {printed printed' : List String}
  {d d' : Disk}

theorem exec_bind_ok {a : α} (h : exec x printed d = ((.ok a, printed'), d')) :
    exec (x >>= f) printed d = exec (f a) printed' d' := by
  rw [exec, ExceptT.run_bind, StateT.run_bind]
  exact OnDisk.run_bind h

theorem exec_bind_error {fault : ToolFault} (h : exec x printed d = ((.error fault, printed'), d')) :
    exec (x >>= f) printed d = ((.error fault, printed'), d') := by
  rw [exec, ExceptT.run_bind, StateT.run_bind]
  exact OnDisk.run_bind h

theorem exec_say_bind (line : String) (f : Unit → Session OnDisk β) :
    exec (say line >>= f) printed d = exec (f ()) (printed ++ [line]) d := rfl

/-- Work on the disk alone goes on with its answer. -/
theorem exec_monadLift_bind {y : OnDisk α} {a : α} (h : y.run d = (a, d')) :
    exec (monadLift y >>= f) printed d = exec (f a) printed d' := by
  have hlift : exec (monadLift y) printed d = ((.ok (y.run d).1, printed), (y.run d).2) := rfl
  rw [h] at hlift
  exact exec_bind_ok hlift

theorem exec_require_ok {fault : φ → ToolFault} {y : OnDisk (Except φ α)} {a : α}
    (h : y.run d = (.ok a, d')) :
    exec (require fault y >>= f) printed d = exec (f a) printed d' :=
  exec_bind_ok ((exec_monadLift_bind h).trans rfl)

theorem exec_require_error {fault : φ → ToolFault} {y : OnDisk (Except φ α)} {e : φ}
    (h : y.run d = (.error e, d')) :
    exec (require fault y >>= f) printed d = ((.error (fault e), printed), d') :=
  exec_bind_error ((exec_monadLift_bind h).trans rfl)

/-! ### Sessions that leave the disk alone -/

/-- A session that leaves every disk as it is. -/
def Keeps (x : Session OnDisk α) : Prop :=
  ∀ printed d, ∃ result printed', exec x printed d = ((result, printed'), d)

theorem keeps_bind (hx : Keeps x) (hf : ∀ a, Keeps (f a)) : Keeps (x >>= f) := by
  intro printed d
  obtain ⟨result, printed', hfirst⟩ := hx printed d
  cases result with
  | error fault => exact ⟨_, _, exec_bind_error hfirst⟩
  | ok a =>
      obtain ⟨result, printed'', hrest⟩ := hf a printed' d
      exact ⟨result, printed'', (exec_bind_ok hfirst).trans hrest⟩

theorem keeps_pure (a : α) : Keeps (pure a) := fun _ _ => ⟨_, _, rfl⟩

theorem keeps_throw (fault : ToolFault) : Keeps (throw fault : Session OnDisk α) :=
  fun _ _ => ⟨_, _, rfl⟩

theorem keeps_say (line : String) : Keeps (say line : Session OnDisk Unit) := fun _ _ => ⟨_, _, rfl⟩

theorem keeps_monadLift {y : OnDisk α} {P : α → Prop} (h : OnDisk.Looks y P) :
    Keeps (monadLift y : Session OnDisk α) := by
  intro printed d
  obtain ⟨a, ha, -⟩ := h d
  have hlift : exec (monadLift y) printed d = ((.ok (y.run d).1, printed), (y.run d).2) := rfl
  rw [ha] at hlift
  exact ⟨_, _, hlift⟩

theorem keeps_require {fault : φ → ToolFault} {y : OnDisk (Except φ α)} {P : Except φ α → Prop}
    (h : OnDisk.Looks y P) : Keeps (require fault y) := by
  refine keeps_bind (keeps_monadLift h) fun result => ?_
  cases result with
  | ok a => exact keeps_pure a
  | error e => exact keeps_throw _

end Session

end VulkanWire
