import ManifestNotice.Delivery

/-!
# Steps, run

What a computation that may end in a fault gives on a world, and the world it
leaves: one equation for each way to build one. Two results agree (`Agree`) if
both fail with the same fault or give related values, and two runs do
(`AgreeIn`) if their worlds are related as well.
-/

namespace ManifestNotice

section
variable {Reason World α β : Type}

theorem run_get (world : World) :
    (get : ExceptT Reason (StateM World) World).run.run world = (.ok world, world) := rfl

theorem run_modify (change : World → World) (world : World) :
    (modify change : ExceptT Reason (StateM World) Unit).run.run world =
      (.ok (), change world) := rfl

theorem run_ofExcept (result : Except Reason α) (world : World) :
    (result : ExceptT Reason (StateM World) α).run.run world = (result, world) := by
  cases result <;> rfl

theorem run_bind (step : ExceptT Reason (StateM World) α)
    (next : α → ExceptT Reason (StateM World) β) (world : World) :
    (step >>= next).run.run world = match step.run.run world with
      | (.ok a, after) => (next a).run.run after
      | (.error reason, after) => (.error reason, after) := by
  unfold ExceptT.run StateT.run
  simp only [bind, ExceptT.bind, ExceptT.mk, StateT.bind, ExceptT.bindCont]
  cases step world with
  | mk result after => cases result <;> rfl

theorem eq_ok_of_toOption {result : Except Reason α} (h : result.toOption = some a) :
    result = .ok a := by
  cases result with
  | error reason => cases h
  | ok => rw [Option.some.inj h]

theorem eq_mk_ok {done : Except Reason α × World} (h : done.1.toOption = some a) :
    done = (.ok a, done.2) := Prod.ext (eq_ok_of_toOption h) rfl

theorem mapError_ok_bind (change : Reason → World) (a : α) (next : α → Except World β) :
    ((Except.ok a : Except Reason α).mapError change >>= next) = next a := rfl

end

-- ---------------------------------------------------------------------------
-- Two results
-- ---------------------------------------------------------------------------

/-- The same fault on both sides, or values that are related. -/
inductive Agree {Reason α β : Type} (related : α → β → Prop) :
    Except Reason α → Except Reason β → Prop
  | error (reason : Reason) : Agree related (.error reason) (.error reason)
  | ok {a : α} {b : β} : related a b → Agree related (.ok a) (.ok b)

namespace Agree

section
variable {Reason Other α β γ δ : Type} {related : α → β → Prop} {wanted : γ → δ → Prop}
  {first : Except Reason α} {second : Except Reason β}

theorem mapError (h : Agree related first second) (change : Reason → Other) :
    Agree related (first.mapError change) (second.mapError change) := by
  cases h with
  | error reason => exact .error (change reason)
  | ok h => exact .ok h

theorem bind {next : α → Except Reason γ} {after : β → Except Reason δ}
    (h : Agree related first second) (hn : ∀ {a b}, related a b → Agree wanted (next a) (after b)) :
    Agree wanted (first.bind next) (second.bind after) := by
  cases h with
  | error reason => exact .error reason
  | ok h => exact hn h

theorem map {f : α → γ} {g : β → δ} (h : Agree related first second)
    (hn : ∀ {a b}, related a b → wanted (f a) (g b)) : Agree wanted (first.map f) (second.map g) := by
  cases h with
  | error reason => exact .error reason
  | ok h => exact .ok (hn h)

theorem toOption (h : Agree related first second) :
    Option.Rel related first.toOption second.toOption := by
  cases h with
  | error => exact .none
  | ok h => exact .some h

end

theorem refl {Reason α : Type} (result : Except Reason α) : Agree Eq result result := by
  cases result with
  | error reason => exact .error reason
  | ok => exact .ok rfl

theorem eq {Reason α : Type} {first second : Except Reason α} (h : Agree Eq first second) :
    first = second := by
  cases h with
  | error => rfl
  | ok h => rw [h]

end Agree

section
variable {Reason World α β γ δ : Type} {worlds : World → World → Prop} {related : α → β → Prop}
  {wanted : γ → δ → Prop} {a b : World}

/-- Results that agree, and worlds that are related. -/
def AgreeIn (worlds : World → World → Prop) (related : α → β → Prop)
    (done : Except Reason α × World) (second : Except Reason β × World) : Prop :=
  Agree related done.1 second.1 ∧ worlds done.2 second.2

/-- Computations agree if their first steps do and the rest does from there. -/
theorem AgreeIn.bind {step : ExceptT Reason (StateM World) α} {other : ExceptT Reason (StateM World) β}
    {next : α → ExceptT Reason (StateM World) γ} {after : β → ExceptT Reason (StateM World) δ}
    (h : AgreeIn worlds related (step.run.run a) (other.run.run b))
    (hn : ∀ {x y a b}, related x y → worlds a b →
      AgreeIn worlds wanted ((next x).run.run a) ((after y).run.run b)) :
    AgreeIn worlds wanted ((step >>= next).run.run a) ((other >>= after).run.run b) := by
  obtain ⟨hresult, hworld⟩ := h
  rw [run_bind, run_bind]
  generalize step.run.run a = done at hresult hworld
  generalize other.run.run b = second at hresult hworld
  obtain ⟨result, a⟩ := done
  obtain ⟨given, b⟩ := second
  cases hresult with
  | error reason => exact ⟨.error reason, hworld⟩
  | ok h => exact hn h hworld

theorem AgreeIn.ofExcept {result : Except Reason α} {second : Except Reason β}
    (h : Agree related result second) (hw : worlds a b) :
    AgreeIn worlds related ((result : ExceptT Reason (StateM World) α).run.run a)
      ((second : ExceptT Reason (StateM World) β).run.run b) := by
  rw [run_ofExcept, run_ofExcept]
  exact ⟨h, hw⟩

end

end ManifestNotice
