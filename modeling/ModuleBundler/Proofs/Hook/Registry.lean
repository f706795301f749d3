import ModuleBundler.Hook.Registry
import ModuleBundler.Proofs.Except

/-!
# What is asked of a registry

Declaring, subscribing and firing are granted under the conditions that the point with the name
decides, and then change this point only. Whatever is granted, hooks keep their kinds and arguments.

## Main definitions

* `HookRegistry.Declares`, `HookRegistry.Keeps` — what hooks are declared as, and that they stay so.

## Main results

* `HookRegistry.declare_eq_ok_iff`, `HookRegistry.subscribe_eq_ok_iff`,
  `HookRegistry.fire_eq_ok_iff` — when it is granted, and what the registry is afterwards.
* `HookRegistry.subscribe_of_fired` — who comes too late is told so.
* `HookRegistry.keeps_of_declare`, `HookRegistry.keeps_of_subscribe`, `HookRegistry.keeps_of_fire` —
  hooks stay what they are declared as.
-/

namespace ModuleBundler.HookRegistry

variable {σ : Type} {registry after : HookRegistry σ} {hook other handler : String}
  {kind : HookKind} {argument : HookArgument} {point : HookPoint σ}

/-! ### Finding hooks -/

@[simp] theorem find?_set_self (registry : HookRegistry σ) (hook : String) (point : HookPoint σ) :
    (registry.set hook point).find? hook = some point :=
  Association.lookup_put_self ..

theorem find?_set_of_ne (h : other ≠ hook) (registry : HookRegistry σ) (point : HookPoint σ) :
    (registry.set hook point).find? other = registry.find? other :=
  Association.lookup_put_of_ne h ..

theorem find?_append_self (h : registry.find? hook = none) (point : HookPoint σ) :
    find? ⟨registry.points ++ [(hook, point)]⟩ hook = some point := by
  unfold find? at h ⊢
  rw [List.lookup_append, h, List.lookup_cons_self, Option.none_or]

theorem find?_append_of_ne (h : other ≠ hook) (registry : HookRegistry σ) (point : HookPoint σ) :
    find? ⟨registry.points ++ [(hook, point)]⟩ other = registry.find? other := by
  unfold find?
  rw [List.lookup_append, List.lookup_cons, beq_false_of_ne h, List.lookup_nil, Option.or_none]

theorem point_eq_ok_iff : registry.point hook = .ok point ↔ registry.find? hook = some point := by
  unfold HookRegistry.point
  cases registry.find? hook <;> simp

@[simp] theorem checkKind_self (hook : String) (point : HookPoint σ) :
    point.checkKind hook point.kind = .ok ⟨rfl⟩ :=
  dif_pos rfl

@[simp] theorem checkArgument_self (hook : String) (point : HookPoint σ) :
    point.checkArgument hook point.argument = .ok ⟨rfl⟩ :=
  dif_pos rfl

/-! ### What is granted -/

theorem declare_eq_ok_iff {signature : List String} :
    registry.declare hook kind argument signature = .ok after ↔ registry.find? hook = none ∧
      after = ⟨registry.points ++ [(hook, .declared kind argument signature)]⟩ := by
  unfold declare
  cases registry.find? hook <;> simp [eq_comm]

/-- A hook that has not fired takes handlers of its kind and argument. -/
theorem subscribe_of_not_fired (hfind : registry.find? hook = some point)
    (hfired : point.fired = false) (body : Body σ point.kind point.argument) :
    registry.subscribe hook handler point.kind point.argument body =
      .ok (registry.set hook (point.add ⟨handler, body⟩)) := by
  refine Except.bind_eq_ok_iff.mpr ⟨point, point_eq_ok_iff.mpr hfind,
    Except.bind_eq_ok_iff.mpr ⟨⟨rfl⟩, checkKind_self .., ?_⟩⟩
  rw [hfired]
  exact Except.bind_eq_ok_iff.mpr ⟨⟨rfl⟩, checkArgument_self .., rfl⟩

/-- Who comes too late is told so, whatever the argument. -/
theorem subscribe_of_fired {body : Body σ kind argument} (hfind : registry.find? hook = some point)
    (hkind : point.kind = kind) (hfired : point.fired = true) :
    registry.subscribe hook handler kind argument body = .error (.late hook handler) := by
  subst hkind
  refine (Except.bind_eq_of_eq_ok (point_eq_ok_iff.mpr hfind)).trans
    ((Except.bind_eq_of_eq_ok (checkKind_self ..)).trans ?_)
  rw [hfired]
  rfl

/-- A handler can subscribe to a hook of its kind and argument that has not fired. -/
theorem subscribe_eq_ok_iff {body : Body σ kind argument} :
    registry.subscribe hook handler kind argument body = .ok after ↔
      ∃ point, registry.find? hook = some point ∧ point.fired = false ∧
        ∃ (sameKind : point.kind = kind) (sameArgument : point.argument = argument),
          after = registry.set hook (point.add ⟨handler, sameKind ▸ sameArgument ▸ body⟩) := by
  constructor
  · intro h
    obtain ⟨point, hpoint, h⟩ := Except.bind_eq_ok_iff.mp h
    obtain ⟨⟨hkind⟩, -, h⟩ := Except.bind_eq_ok_iff.mp h
    subst hkind
    have hfind := point_eq_ok_iff.mp hpoint
    cases hfired : point.fired with
    | true =>
      rw [hfired] at h
      cases h
    | false =>
      rw [hfired] at h
      obtain ⟨⟨hargument⟩, -, h⟩ := Except.bind_eq_ok_iff.mp h
      subst hargument
      cases h
      exact ⟨point, hfind, hfired, rfl, rfl, rfl⟩
  · rintro ⟨point, hfind, hfired, rfl, rfl, rfl⟩
    exact subscribe_of_not_fired hfind hfired body

/-- A hook fires for its kind and argument, with all of its handlers. -/
theorem fire_eq_ok_iff {taps : List (Tap σ kind argument)} :
    registry.fire hook kind argument = .ok (taps, after) ↔
      ∃ point, registry.find? hook = some point ∧
        ∃ (sameKind : point.kind = kind) (sameArgument : point.argument = argument),
          taps = sameKind ▸ sameArgument ▸ point.taps ∧
            after = registry.set hook { point with fired := true } := by
  constructor
  · intro h
    obtain ⟨point, hpoint, h⟩ := Except.bind_eq_ok_iff.mp h
    obtain ⟨⟨hkind⟩, -, h⟩ := Except.bind_eq_ok_iff.mp h
    obtain ⟨⟨hargument⟩, -, h⟩ := Except.bind_eq_ok_iff.mp h
    cases h
    exact ⟨point, point_eq_ok_iff.mp hpoint, hkind, hargument, rfl, rfl⟩
  · rintro ⟨point, hfind, rfl, rfl, rfl, rfl⟩
    exact Except.bind_eq_ok_iff.mpr ⟨point, point_eq_ok_iff.mpr hfind,
      Except.bind_eq_ok_iff.mpr ⟨⟨rfl⟩, checkKind_self .., Except.bind_eq_ok_iff.mpr
        ⟨⟨rfl⟩, checkArgument_self .., rfl⟩⟩⟩

/-! ### What hooks are declared as -/

/-- A hook is declared with a kind and an argument. -/
def Declares (registry : HookRegistry σ) (hook : String) (kind : HookKind)
    (argument : HookArgument) : Prop :=
  ∃ point, registry.find? hook = some point ∧ point.kind = kind ∧ point.argument = argument

/-- Hooks stay declared with their kinds and arguments. -/
def Keeps (registry after : HookRegistry σ) : Prop :=
  ∀ hook kind argument, registry.Declares hook kind argument → after.Declares hook kind argument

/-- A hook that is declared fires. -/
theorem Declares.exists_fire (h : registry.Declares hook kind argument) :
    ∃ taps after, registry.fire hook kind argument = .ok (taps, after) := by
  obtain ⟨point, hfind, rfl, rfl⟩ := h
  exact ⟨_, _, fire_eq_ok_iff.mpr ⟨point, hfind, rfl, rfl, rfl, rfl⟩⟩

theorem Keeps.refl (registry : HookRegistry σ) : registry.Keeps registry :=
  fun _ _ _ h => h

theorem Keeps.trans {last : HookRegistry σ} (h : registry.Keeps after) (h' : after.Keeps last) :
    registry.Keeps last :=
  fun hook kind argument hdeclares => h' hook kind argument (h hook kind argument hdeclares)

theorem keeps_set {later : HookPoint σ} (hfind : registry.find? hook = some point)
    (hkind : later.kind = point.kind) (hargument : later.argument = point.argument) :
    registry.Keeps (registry.set hook later) := by
  rintro other kind argument ⟨found, hfound, rfl, rfl⟩
  by_cases hother : other = hook
  · subst hother
    obtain rfl : found = point := Option.some.inj (hfound.symm.trans hfind)
    exact ⟨later, find?_set_self .., hkind, hargument⟩
  · exact ⟨found, (find?_set_of_ne hother ..).trans hfound, rfl, rfl⟩

theorem keeps_of_declare {signature : List String}
    (h : registry.declare hook kind argument signature = .ok after) : registry.Keeps after := by
  obtain ⟨hnone, rfl⟩ := declare_eq_ok_iff.mp h
  rintro other kind' argument' ⟨found, hfound, rfl, rfl⟩
  have hother : other ≠ hook := by
    rintro rfl
    cases hnone.symm.trans hfound
  exact ⟨found, (find?_append_of_ne hother ..).trans hfound, rfl, rfl⟩

theorem keeps_of_subscribe {body : Body σ kind argument}
    (h : registry.subscribe hook handler kind argument body = .ok after) :
    registry.Keeps after := by
  obtain ⟨point, hfind, -, rfl, rfl, rfl⟩ := subscribe_eq_ok_iff.mp h
  exact keeps_set hfind rfl rfl

theorem keeps_of_fire {taps : List (Tap σ kind argument)}
    (h : registry.fire hook kind argument = .ok (taps, after)) : registry.Keeps after := by
  obtain ⟨point, hfind, rfl, rfl, rfl, rfl⟩ := fire_eq_ok_iff.mp h
  exact keeps_set hfind rfl rfl

end ModuleBundler.HookRegistry
