/-
  Correctness of `MethodRegistry`.

  The two maps are the two directions of one pairing of names and ids: `addMethod` enters a
  pair (`Pairing.enter`), and what a registry holds after any calls is what the pairing of
  these calls holds.
-/
import Axtp.Lib.Pairing
import Axtp.Runtime.BusinessRouter

namespace Axtp.MethodRegistry

/-- The registry of a list of calls, the first one first. -/
def addMethods (methods : List (UInt32 × Bytes)) : MethodRegistry :=
  methods.foldl (fun registry method => registry.addMethod method.1 method.2) {}

/-- Erase the entry that was found, if one was. -/
def eraseFound {α β : Type} [DecidableEq α] (map : α → Option β) (existing : Option α) :
    α → Option β :=
  match existing with
  | some key => Function.update map key none
  | none => map

theorem addMethod_eq (registry : MethodRegistry) (methodId : UInt32) (methodName : Bytes) :
    registry.addMethod methodId methodName =
      let nameToId := eraseFound registry.nameToId (registry.idToName methodId)
      { nameToId := Function.update nameToId methodName (some methodId)
        idToName := Function.update (eraseFound registry.idToName (nameToId methodName)) methodId
          (some methodName) } := by
  unfold addMethod eraseFound
  cases registry.idToName methodId with
  | none =>
    dsimp only
    cases registry.nameToId methodName <;> rfl
  | some existing =>
    dsimp only
    cases Function.update registry.nameToId existing none methodName <;> rfl

/-- The two maps of a registry are the two directions of a pairing. -/
structure Refines (registry : MethodRegistry) (pairing : Bytes ≃. UInt32) : Prop where
  nameToId : registry.nameToId = pairing
  idToName : registry.idToName = pairing.symm

/-- Forgetting `old`, the only other element that leads to `b`, before `a` is led to `b`. -/
theorem update_eraseFound_eq_redirect {α β : Type} [DecidableEq α] [DecidableEq β]
    {f : α → Option β} {old : Option α} (a : α) (b : β)
    (hold : ∀ x, x ≠ a → (f x = some b ↔ old = some x)) :
    Function.update (eraseFound f old) a (some b) = Pairing.redirect f a b := by
  funext x
  unfold Pairing.redirect
  by_cases hxa : x = a
  · rw [if_pos hxa, hxa, Function.update_self]
  rw [if_neg hxa, Function.update_of_ne hxa]
  cases old with
  | none =>
    have hx : ¬ f x = some b := fun h => by cases (hold x hxa).mp h
    rw [if_neg hx]
    rfl
  | some x' =>
    by_cases hx : x = x'
    · rw [if_pos ((hold x hxa).mpr (congrArg some hx.symm)), hx]
      exact Function.update_self ..
    · have hfx : ¬ f x = some b := fun h => hx (Option.some.inj ((hold x hxa).mp h)).symm
      rw [if_neg hfx]
      exact Function.update_of_ne hx ..

/-- **One call** enters the pair. -/
theorem Refines.addMethod {registry : MethodRegistry} {pairing : Bytes ≃. UInt32}
    (h : Refines registry pairing) (methodId : UInt32) (methodName : Bytes) :
    Refines (registry.addMethod methodId methodName)
      (Pairing.enter pairing methodName methodId) := by
  have hpaired : ∀ name id,
      registry.nameToId name = some id ↔ registry.idToName id = some name := by
    intro name id
    rw [h.nameToId, h.idToName, pairing.eq_some_iff]
  rw [addMethod_eq]
  constructor
  · rw [Pairing.enter_apply, ← h.nameToId]
    apply update_eraseFound_eq_redirect methodName methodId
    intro name _
    exact hpaired name methodId
  · rw [Pairing.enter_symm_apply, ← h.idToName]
    apply update_eraseFound_eq_redirect methodId methodName
    intro id hid
    rw [← hpaired]
    -- the name lost its id before the lookup only where this was `methodId` itself
    cases hexisting : registry.idToName methodId with
    | none => exact Iff.rfl
    | some existing =>
      show _ ↔ Function.update registry.nameToId existing none methodName = some id
      by_cases hname : methodName = existing
      · subst hname
        have hown := (hpaired methodName methodId).mpr hexisting
        rw [Function.update_self, hown, Option.some_inj]
        constructor
        · intro heq
          exact absurd heq.symm hid
        · intro hnone
          cases hnone
      · rw [Function.update_of_ne hname]

/-- **A registry** is the pairing of the calls that made it. -/
theorem addMethods_refines (methods : List (UInt32 × Bytes)) :
    Refines (addMethods methods) (Pairing.enterAll (methods.map Prod.swap)) := by
  induction methods using List.reverseRecOn with
  | nil => exact ⟨rfl, rfl⟩
  | append_singleton methods method ih =>
    have hstep : addMethods (methods ++ [method]) =
        (addMethods methods).addMethod method.1 method.2 := by
      unfold addMethods
      rw [List.foldl_append]
      rfl
    rw [hstep, List.map_append, List.map_singleton, Prod.swap, Pairing.enterAll_concat]
    exact ih.addMethod method.1 method.2

theorem findMethodId_addMethods (methods : List (UInt32 × Bytes)) (name : Bytes) :
    (addMethods methods).findMethodId name = Pairing.enterAll (methods.map Prod.swap) name := by
  unfold findMethodId
  rw [(addMethods_refines methods).nameToId]

theorem findMethodName_addMethods (methods : List (UInt32 × Bytes)) (id : UInt32) :
    (addMethods methods).findMethodName id =
      (Pairing.enterAll (methods.map Prod.swap)).symm id := by
  unfold findMethodName
  rw [(addMethods_refines methods).idToName]

theorem findMethodId_addMethods_eq_some_iff {methods : List (UInt32 × Bytes)} {id : UInt32}
    {name : Bytes} :
    (addMethods methods).findMethodId name = some id ↔
      ∃ before after, methods = before ++ (id, name) :: after ∧
        ∀ method ∈ after, (method.1 = id → method.2 = name) ∧
          (method.2 = name → method.1 = id) := by
  rw [findMethodId_addMethods, Pairing.enterAll_eq_some_iff]
  constructor
  · rintro ⟨before, after, heq, hspares⟩
    obtain ⟨before, rest, rfl, rfl, hrest⟩ := List.map_eq_append_iff.mp heq
    obtain ⟨entry, after, rfl, hentry, rfl⟩ := List.map_eq_cons_iff.mp hrest
    obtain rfl : entry = (id, name) := Prod.swap_injective hentry
    refine ⟨before, after, rfl, fun method hmem => ?_⟩
    exact (hspares _ (List.mem_map_of_mem hmem)).symm
  · rintro ⟨before, after, rfl, hspares⟩
    refine ⟨before.map Prod.swap, after.map Prod.swap, by simp, fun entry hmem => ?_⟩
    obtain ⟨method, hmethod, rfl⟩ := List.mem_map.mp hmem
    exact (hspares method hmethod).symm

/-- **The registry stays a bijection**: after any calls the two lookups undo each other, the
last pair added is there, and a pair is there if and only if it was added and no later call
gave its id another name or its name another id. -/
theorem addMethods_bijection (methods : List (UInt32 × Bytes)) :
    (∀ id name, (addMethods methods).findMethodId name = some id ↔
      (addMethods methods).findMethodName id = some name) ∧
    (∀ id name, (addMethods (methods ++ [(id, name)])).findMethodId name = some id ∧
      (addMethods (methods ++ [(id, name)])).findMethodName id = some name) ∧
    ∀ id name, (addMethods methods).findMethodId name = some id ↔
      ∃ before after, methods = before ++ (id, name) :: after ∧
        ∀ method ∈ after, (method.1 = id → method.2 = name) ∧
          (method.2 = name → method.1 = id) := by
  have hinverse : ∀ (methods : List (UInt32 × Bytes)) id name,
      (addMethods methods).findMethodId name = some id ↔
        (addMethods methods).findMethodName id = some name := by
    intro methods id name
    rw [findMethodId_addMethods, findMethodName_addMethods, PEquiv.eq_some_iff]
  refine ⟨hinverse methods, fun id name => ?_, fun id name => findMethodId_addMethods_eq_some_iff⟩
  have hlast : (addMethods (methods ++ [(id, name)])).findMethodId name = some id :=
    findMethodId_addMethods_eq_some_iff.mpr ⟨methods, [], rfl, fun _ h => absurd h List.not_mem_nil⟩
  exact ⟨hlast, (hinverse _ id name).mp hlast⟩

-- Two methods trade an id and a name: what they held is gone from both maps.
example : (addMethods [(1, [97]), (2, [98]), (1, [98])]).findMethodName 2 = none ∧
    (addMethods [(1, [97]), (2, [98]), (1, [98])]).findMethodId [97] = none := by decide

end Axtp.MethodRegistry
