import Joinery.Proofs.Machine.Modes
import Joinery.Proofs.Outcome
import Joinery.Proofs.Program.Building
import Joinery.Proofs.Program.Leaves

/-
  The scopes of a recipe put switches around what they
  build. A machine that starts in the ambient state meets
  every leaf in the modes that were ambient when the leaf
  was built, and ends where it started.

  Key definitions include:
    * `Recipe.scopesOnly`
    * `Recipe.placed`
    * `Machine.Coheres`

  Key theorems include:
    * `Machine.Coheres.append`
    * `Recipe.built_coheres`
    * `Recipe.modes_follow_scopes`
-/

namespace Joinery

------------------------------------------------------------
-- Where Leaves Are Built
------------------------------------------------------------

namespace Recipe

mutual

/-
  A recipe that changes the ambient state by scopes only,
  which tell the machine about the change.
-/
def scopesOnly : Recipe → Bool
  | .group parts => allScopesOnly parts
  | .nest _ part => part.scopesOnly
  | .copies _ part => part.scopesOnly
  | .unitScope _ body => body.scopesOnly
  | .positioningScope _ body => body.scopesOnly
  | .inUnit _ _ => false
  | .inPositioning _ _ => false
  | .orElse part fallback => part.scopesOnly && fallback.scopesOnly
  | _ => true

/- Recipes that change the ambient state by scopes only. -/
def allScopesOnly : List Recipe → Bool
  | [] => true
  | part :: rest => part.scopesOnly && allScopesOnly rest

end

/- The leaves of an operation, all in one ambient state. -/
def settled
    (ambient : Ambient)
    (built : Outcome Operation) : List (Situated Operation) :=
  match built with
  | .ok op => op.leaves.map (⟨ambient, ·⟩)
  | .error _ => []

/-
  The leaves of the body of a scope: those of the body, or
  the items of the value that the body is.
-/
def opened
    (ambient : Ambient)
    (built : Outcome Operation)
    (leaves : List (Situated Operation)) : List (Situated Operation) :=
  match built with
  | .ok (.value v) => settled ambient (Build.ofBody (.value v))
  | _ => leaves

mutual

/-
  The leaves that a recipe builds, each in the ambient state
  in which it is built.
-/
def placed : Recipe → Ambient → List (Situated Operation)
  | .group parts, ambient => allPlaced parts ambient
  | .nest _ part, ambient => part.placed ambient
  | .copies count part, ambient =>
      (List.replicate count (part.placed ambient)).flatten
  | .unitScope u body, ambient =>
      match (unit u).result ambient with
      | .ok u =>
          let inner := { ambient with unit := u }
          opened inner (body.run inner) (body.placed inner)
      | .error _ => []
  | .positioningScope m body, ambient =>
      match (mode m).result ambient with
      | .ok m =>
          let inner := { ambient with mode := m }
          opened inner (body.run inner) (body.placed inner)
      | .error _ => []
  | .inUnit u part, ambient =>
      match (unit u).result ambient with
      | .ok u => part.placed { ambient with unit := u }
      | .error _ => []
  | .inPositioning m part, ambient =>
      match (mode m).result ambient with
      | .ok m => part.placed { ambient with mode := m }
      | .error _ => []
  | .orElse part fallback, ambient =>
      match part.run ambient with
      | .ok _ => part.placed ambient
      | .error _ => fallback.placed ambient
  | recipe, ambient => settled ambient (recipe.run ambient)

/- The leaves that recipes build, one after the other. -/
def allPlaced : List Recipe → Ambient → List (Situated Operation)
  | [], _ => []
  | part :: rest, ambient =>
      part.placed ambient ++ allPlaced rest ambient

end

end Recipe

------------------------------------------------------------
-- Coherence
------------------------------------------------------------

namespace Machine

/-
  A machine that starts in some modes reaches leaves in the
  modes that they are placed in, and ends as it started.
-/
def Coheres
    (modes : Ambient)
    (leaves : List Operation)
    (placed : List (Situated Operation)) : Prop :=
  visits ModeSwitch.ofLeaf? modes leaves = placed ∧
    after ModeSwitch.ofLeaf? modes leaves = modes

theorem Coheres.nil
    (modes : Ambient) :
    Coheres modes [] [] :=
  ⟨rfl, rfl⟩

theorem Coheres.append
    {modes : Ambient}
    {front rest : List Operation}
    {early late : List (Situated Operation)}
    (hFront : Coheres modes front early)
    (hRest : Coheres modes rest late) :
    Coheres modes (front ++ rest) (early ++ late) := by
  refine ⟨?_, ?_⟩
  · rw [visits_append, hFront.1, hFront.2, hRest.1]
  · rw [after_append, hFront.2, hRest.2]

/- Leaves that switch nothing stay where they are placed. -/
theorem Coheres.settled
    {modes : Ambient}
    {op : Operation}
    (hOther :
      ∀ s ∈ Recipe.settled modes (.ok op),
        ModeSwitch.ofLeaf? s.item = none) :
    Coheres modes op.leaves (Recipe.settled modes (.ok op)) := by
  apply visits_of_no_switch modes
  intro leaf hMem
  exact hOther ⟨modes, leaf⟩ (List.mem_map.mpr ⟨leaf, hMem, rfl⟩)

/-
  Between a switch and the switch that undoes it, leaves
  stay where they are placed in the switched modes.
-/
theorem Coheres.bracket
    {first last inner : Operation}
    {switch back : ModeSwitch}
    {modes : Ambient}
    {placed : List (Situated Operation)}
    (hFirst : ModeSwitch.ofLeaf? first = some switch)
    (hLast : ModeSwitch.ofLeaf? last = some back)
    (hBack : back.apply (switch.apply modes) = modes)
    (hInner : Coheres (switch.apply modes) inner.leaves placed) :
    Coheres modes
      (Operation.group [first, inner, last]).leaves placed := by
  have hLeaves :
      (Operation.group [first, inner, last]).leaves =
        first :: (inner.leaves ++ [last]) := by
    simp [Operation.leaves_of_isLeaf (ModeSwitch.isLeaf_of_some hFirst),
      Operation.leaves_of_isLeaf (ModeSwitch.isLeaf_of_some hLast)]
  rw [hLeaves, Coheres, ← hInner.1]
  exact visits_bracket hFirst hLast modes hBack hInner.2

end Machine

------------------------------------------------------------
-- Built Leaves
------------------------------------------------------------

namespace Recipe

open Machine

/- The leaves of a scope's body stay where they are placed. -/
theorem opened_coheres
    {ambient : Ambient}
    {body inner : Operation}
    {leaves : List (Situated Operation)}
    (hInner : Build.ofBody body = .ok inner)
    (hOther :
      ∀ s ∈ opened ambient (.ok body) leaves,
        ModeSwitch.ofLeaf? s.item = none)
    (hBody :
      (∀ s ∈ leaves, ModeSwitch.ofLeaf? s.item = none) →
        Coheres ambient body.leaves leaves) :
    Coheres ambient inner.leaves
      (opened ambient (.ok body) leaves) := by
  cases body with
  | value v =>
      simp only [opened, hInner] at hOther ⊢
      exact Coheres.settled hOther
  | instruction m args =>
      cases hInner
      exact hBody hOther
  | group ops =>
      cases hInner
      exact hBody hOther
  | foreign name =>
      cases hInner
      exact hBody hOther

/- A number of equal parts stay where they are placed. -/
theorem times_coheres
    {body : Build Operation}
    (hKeeps : Build.Keeps body)
    {ambient : Ambient}
    {placed : List (Situated Operation)}
    (hBody :
      ∀ op, body.result ambient = .ok op →
        (∀ s ∈ placed, ModeSwitch.ofLeaf? s.item = none) →
          Coheres ambient op.leaves placed)
    (count : Nat)
    {ops : List Operation}
    (hBuilt : (times body count).result ambient = .ok ops)
    (hOther :
      ∀ s ∈ (List.replicate count placed).flatten,
        ModeSwitch.ofLeaf? s.item = none) :
    Coheres ambient (Operation.allLeaves ops)
      (List.replicate count placed).flatten := by
  induction count generalizing ops with
  | zero =>
      cases hBuilt
      exact Coheres.nil ambient
  | succ count ih =>
      rw [times, Build.result_bind hKeeps,
        Outcome.bind_eq_ok_iff] at hBuilt
      rcases hBuilt with ⟨op, hOp, hRest⟩
      rw [Build.result_bind (times_keeps hKeeps count),
        Outcome.bind_eq_ok_iff] at hRest
      rcases hRest with ⟨rest, hRest, hOps⟩
      cases hOps
      rw [List.replicate_succ, List.flatten_cons] at hOther ⊢
      rw [Operation.allLeaves_cons]
      refine (hBody op hOp fun s hMem => ?_).append
        (ih hRest fun s hMem => ?_)
      · exact hOther s (List.mem_append_left _ hMem)
      · exact hOther s (List.mem_append_right _ hMem)

/- Leaves that are built in one ambient state stay in it. -/
theorem settled_coheres
    {recipe : Recipe}
    {ambient : Ambient}
    {op : Operation}
    (hPlaced :
      recipe.placed ambient = settled ambient (recipe.run ambient))
    (hBuilt : recipe.run ambient = .ok op)
    (hOther :
      ∀ s ∈ recipe.placed ambient, ModeSwitch.ofLeaf? s.item = none) :
    Coheres ambient op.leaves (recipe.placed ambient) := by
  rw [hPlaced, hBuilt] at hOther ⊢
  exact Coheres.settled hOther

@[simp] theorem leaves_nested
    (op : Operation)
    (levels : Nat) :
    (nested op levels).leaves = op.leaves := by
  induction levels with
  | zero => rfl
  | succ levels ih => simp [nested, ih]

mutual

/- What a recipe builds is reached in the modes it was built in. -/
theorem built_coheres
    (recipe : Recipe)
    (hScopes : recipe.scopesOnly = true)
    {ambient : Ambient}
    {op : Operation}
    (hBuilt : recipe.run ambient = .ok op)
    (hOther :
      ∀ s ∈ recipe.placed ambient, ModeSwitch.ofLeaf? s.item = none) :
    Coheres ambient op.leaves (recipe.placed ambient) := by
  cases recipe with
  | group parts =>
      rw [scopesOnly] at hScopes
      rw [placed] at hOther ⊢
      change (build (.group parts)).result ambient = _ at hBuilt
      rw [build, Build.result_bind (buildAll_keeps parts),
        Outcome.bind_eq_ok_iff] at hBuilt
      rcases hBuilt with ⟨ops, hOps, hGroup⟩
      cases hGroup
      rw [Operation.leaves_group]
      exact allBuilt_coheres parts hScopes hOps hOther
  | nest levels part =>
      rw [scopesOnly] at hScopes
      rw [placed] at hOther ⊢
      change (build (.nest levels part)).result ambient = _ at hBuilt
      rw [build, Build.result_bind (build_keeps part),
        Outcome.bind_eq_ok_iff] at hBuilt
      rcases hBuilt with ⟨inner, hInner, hNested⟩
      cases hNested
      rw [leaves_nested]
      exact built_coheres part hScopes hInner hOther
  | copies count part =>
      rw [scopesOnly] at hScopes
      rw [placed] at hOther ⊢
      change (build (.copies count part)).result ambient = _ at hBuilt
      rw [build,
        Build.result_bind (times_keeps (build_keeps part) count),
        Outcome.bind_eq_ok_iff] at hBuilt
      rcases hBuilt with ⟨ops, hOps, hGroup⟩
      cases hGroup
      rw [Operation.leaves_group]
      exact times_coheres (build_keeps part)
        (fun inner hInner hInnerOther =>
          built_coheres part hScopes hInner hInnerOther)
        count hOps hOther
  | unitScope u body =>
      rw [scopesOnly] at hScopes
      rcases exists_of_unitScope hBuilt with
        ⟨v, made, inner, hUnit, hMade, hBody, rfl⟩
      simp only [placed, hUnit, hMade] at hOther ⊢
      refine Coheres.bracket (ModeSwitch.ofLeaf?_ofUnit v)
        (ModeSwitch.ofLeaf?_ofUnit ambient.unit) rfl ?_
      exact opened_coheres hBody hOther fun hBodyOther =>
        built_coheres body hScopes hMade hBodyOther
  | positioningScope m body =>
      rw [scopesOnly] at hScopes
      rcases exists_of_positioningScope hBuilt with
        ⟨v, made, inner, hMode, hMade, hBody, rfl⟩
      simp only [placed, hMode, hMade] at hOther ⊢
      refine Coheres.bracket (ModeSwitch.ofLeaf?_ofPositioning v)
        (ModeSwitch.ofLeaf?_ofPositioning ambient.mode) rfl ?_
      exact opened_coheres hBody hOther fun hBodyOther =>
        built_coheres body hScopes hMade hBodyOther
  | inUnit u part =>
      rw [scopesOnly] at hScopes
      cases hScopes
  | inPositioning m part =>
      rw [scopesOnly] at hScopes
      cases hScopes
  | orElse part fallback =>
      rw [scopesOnly, Bool.and_eq_true] at hScopes
      rw [run_orElse] at hBuilt
      cases hPart : part.run ambient with
      | ok made =>
          rw [hPart] at hBuilt
          cases hBuilt
          simp only [placed, hPart] at hOther ⊢
          exact built_coheres part hScopes.1 hPart hOther
      | error fault =>
          rw [hPart] at hBuilt
          simp only [placed, hPart] at hOther ⊢
          exact built_coheres fallback hScopes.2 hBuilt hOther
  | instruction mnemonic args =>
      exact settled_coheres (by rw [placed] <;> simp) hBuilt hOther
  | prompt message =>
      exact settled_coheres (by rw [placed] <;> simp) hBuilt hOther
  | probe axis =>
      exact settled_coheres (by rw [placed] <;> simp) hBuilt hOther
  | resetCoordinates coordinates =>
      exact settled_coheres (by rw [placed] <;> simp) hBuilt hOther
  | rapid axes =>
      exact settled_coheres (by rw [placed] <;> simp) hBuilt hOther
  | move axes =>
      exact settled_coheres (by rw [placed] <;> simp) hBuilt hOther
  | awaitMoves =>
      exact settled_coheres (by rw [placed] <;> simp) hBuilt hOther
  | unitMode u =>
      exact settled_coheres (by rw [placed] <;> simp) hBuilt hOther
  | positioningMode m =>
      exact settled_coheres (by rw [placed] <;> simp) hBuilt hOther
  | failing message =>
      exact settled_coheres (by rw [placed] <;> simp) hBuilt hOther
  | foreign name =>
      exact settled_coheres (by rw [placed] <;> simp) hBuilt hOther
  | value t =>
      exact settled_coheres (by rw [placed] <;> simp) hBuilt hOther

/- What recipes build is reached in the modes it was built in. -/
theorem allBuilt_coheres
    (parts : List Recipe)
    (hScopes : allScopesOnly parts = true)
    {ambient : Ambient}
    {ops : List Operation}
    (hBuilt : (buildAll parts).result ambient = .ok ops)
    (hOther :
      ∀ s ∈ allPlaced parts ambient, ModeSwitch.ofLeaf? s.item = none) :
    Coheres ambient (Operation.allLeaves ops)
      (allPlaced parts ambient) := by
  cases parts with
  | nil =>
      rw [buildAll] at hBuilt
      cases hBuilt
      rw [allPlaced, Operation.allLeaves_nil]
      exact Coheres.nil ambient
  | cons part rest =>
      rw [allScopesOnly, Bool.and_eq_true] at hScopes
      rw [buildAll, Build.result_bind (build_keeps part),
        Outcome.bind_eq_ok_iff] at hBuilt
      rcases hBuilt with ⟨op, hOp, hRest⟩
      rw [Build.result_bind (buildAll_keeps rest),
        Outcome.bind_eq_ok_iff] at hRest
      rcases hRest with ⟨others, hOthers, hOps⟩
      cases hOps
      rw [allPlaced] at hOther ⊢
      rw [Operation.allLeaves_cons]
      refine (built_coheres part hScopes.1 hOp fun s hMem => ?_).append
        (allBuilt_coheres rest hScopes.2 hOthers fun s hMem => ?_)
      · exact hOther s (List.mem_append_left _ hMem)
      · exact hOther s (List.mem_append_right _ hMem)

end

/-
  A machine that starts in the ambient state reaches the
  leaves of a program in the order in which they are built,
  each one in the unit and the mode that were ambient then,
  and ends in the state that it started in.
-/
theorem modes_follow_scopes
    (recipe : Recipe)
    (ambient : Ambient)
    (op : Operation)
    (hScopes : recipe.scopesOnly = true)
    (hBuilt : recipe.run ambient = .ok op)
    (hOther :
      ∀ s ∈ recipe.placed ambient, ModeSwitch.ofLeaf? s.item = none) :
    visits ModeSwitch.ofLeaf? ambient op.leaves =
        recipe.placed ambient ∧
      after ModeSwitch.ofLeaf? ambient op.leaves = ambient :=
  built_coheres recipe hScopes hBuilt hOther

/- Scopes in scopes, one in the same unit and one in another. -/
def scopesInScopes : Recipe :=
  group
    [ unitScope (.value (.text "in"))
        (group
          [ positioningScope (.value (.text "relative"))
              (unitScope (.value (.text "in"))
                (rapid [("x", .value (.int 1))])),
            probe (.value (.text "z")),
            unitScope (.value (.text "mm"))
              (value (.list [.ambientUnit])) ]),
      awaitMoves ]

theorem modes_follow_scopesInScopes :
    ∃ op,
      scopesInScopes.run { } = .ok op ∧
      (scopesInScopes.placed { }).map Situated.modes =
        [⟨.inch, .relative⟩, ⟨.inch, .absolute⟩,
          ⟨.millimeter, .absolute⟩, ⟨.millimeter, .absolute⟩] ∧
      visits ModeSwitch.ofLeaf? { } op.leaves =
        scopesInScopes.placed { } ∧
      after ModeSwitch.ofLeaf? { } op.leaves = { } :=
  ⟨_, rfl, rfl,
    modes_follow_scopes scopesInScopes { } _ rfl rfl (by decide)⟩

end Recipe

end Joinery
