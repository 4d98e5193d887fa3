import TokenAuthority.Policy.Reading

/-!
# Checked references

The check of a module looks at expressions one by one and puts their children among those that still
wait. What holds all the while: the references that are not looked at yet are those of the
expressions that wait. So the check passes if and only if all references are defined, and fails with
one that is not.
-/

namespace TokenAuthority.Policy

/-! ## Where references stand -/

theorem Predicate.mem_operands_iff {predicate : Predicate} {operand : Operand} :
    operand ∈ predicate.operands ↔ predicate.Uses operand := by
  constructor
  · intro member
    cases predicate <;> simp only [operands, List.mem_cons, List.not_mem_nil, or_false] at member
    case equal =>
      rcases member with rfl | rfl
      · exact .equalLeft _ _
      · exact .equalRight _ _
    case nonEmpty =>
      subst member
      exact .nonEmpty _
    case contains =>
      rcases member with rfl | rfl
      · exact .containsCollection _ _
      · exact .containsValue _ _
    case intersects =>
      rcases member with rfl | rfl
      · exact .intersectsCollection _ _
      · exact .intersectsValues _ _
    case verifies =>
      rcases member with rfl | rfl | rfl
      · exact .verifiesToken _ _ _
      · exact .verifiesKey _ _ _
      · exact .verifiesIssuer _ _ _
  · intro uses
    cases uses <;> simp [operands]

theorem Operand.mem_references_iff {operand : Operand} {reference : Reference} :
    reference ∈ operand.references ↔
      ∃ name, operand = .binding name ∧ reference = .binding name := by
  cases operand <;> simp [references]

namespace Expression

theorem mentions_iff {expression : Expression} {reference : Reference} :
    expression.Mentions reference ↔
      reference ∈ expression.ownReferences ∨
        ∃ child ∈ expression.children, child.Mentions reference := by
  constructor
  · intro mentions
    cases mentions with
    | rule name => exact .inl (by simp [ownReferences])
    | binding uses =>
        refine .inl (List.mem_flatMap.mpr ⟨_, Predicate.mem_operands_iff.mpr uses, ?_⟩)
        exact Operand.mem_references_iff.mpr ⟨_, rfl, rfl⟩
    | all member mentions => exact .inr ⟨_, member, mentions⟩
    | any member mentions => exact .inr ⟨_, member, mentions⟩
    | not mentions => exact .inr ⟨_, by simp [children], mentions⟩
  · rintro (own | ⟨child, member, mentions⟩)
    · cases expression with
      | rule name =>
          simp only [ownReferences, List.mem_singleton] at own
          subst own
          exact .rule name
      | test predicate =>
          rcases List.mem_flatMap.mp own with ⟨operand, member, names⟩
          rcases Operand.mem_references_iff.mp names with ⟨name, rfl, rfl⟩
          exact .binding (Predicate.mem_operands_iff.mp member)
      | constant | all | any | not => cases own
    · cases expression with
      | all items => exact .all member mentions
      | any items => exact .any member mentions
      | not inner =>
          simp only [children, List.mem_singleton] at member
          subst member
          exact .not mentions
      | constant | rule | test => cases member

end Expression

/-! ## Where rules lead -/

namespace Module

/-- An expression leads to another that stands in it, or in a rule that it refers to. -/
inductive Reaches (policy : Module) : (start reached : Expression) → Prop
  | here (expression : Expression) : Reaches policy expression expression
  | child {expression child reached : Expression} (member : child ∈ expression.children)
      (reaches : Reaches policy child reached) : Reaches policy expression reached
  | rule {name : String} {body reached : Expression}
      (defined : policy.rules.get? name = some body) (reaches : Reaches policy body reached) :
      Reaches policy (.rule name) reached

variable {policy : Module}

theorem Reaches.trans {start middle reached : Expression} (first : policy.Reaches start middle)
    (onwards : policy.Reaches middle reached) : policy.Reaches start reached := by
  induction first with
  | here expression => exact onwards
  | child member _ induction => exact .child member (induction onwards)
  | rule defined _ induction => exact .rule defined (induction onwards)

theorem Reaches.mem_of_closed {known : List Expression}
    (children : ∀ expression ∈ known, ∀ child ∈ expression.children, child ∈ known)
    (bodies : ∀ name body, .rule name ∈ known → policy.rules.get? name = some body → body ∈ known)
    {start reached : Expression} (reaches : policy.Reaches start reached)
    (member : start ∈ known) : reached ∈ known := by
  induction reaches with
  | here expression => exact member
  | child isChild _ induction => exact induction (children _ member _ isChild)
  | rule defined _ induction => exact induction (bodies _ _ member defined)

/-! ## The check -/

def AllDefined (policy : Module) (waiting : List Expression) : Prop :=
  ∀ expression ∈ waiting, ∀ reference, expression.Mentions reference →
    policy.defines reference = true

theorem allDefined_cons_iff {expression : Expression} {waiting : List Expression} :
    policy.AllDefined (expression :: waiting) ↔
      (∀ reference ∈ expression.ownReferences, policy.defines reference = true) ∧
        policy.AllDefined (expression.children.reverse ++ waiting) := by
  unfold AllDefined
  rw [List.forall_mem_cons, List.forall_mem_append]
  simp only [List.mem_reverse]
  constructor
  · rintro ⟨here, others⟩
    refine ⟨?_, ?_, others⟩
    · intro reference own
      exact here reference (Expression.mentions_iff.mpr (.inl own))
    · intro child member reference mentions
      exact here reference (Expression.mentions_iff.mpr (.inr ⟨child, member, mentions⟩))
  · rintro ⟨own, below, others⟩
    refine ⟨?_, others⟩
    intro reference mentions
    rcases Expression.mentions_iff.mp mentions with isOwn | ⟨child, member, mentions⟩
    · exact own reference isOwn
    · exact below child member reference mentions

theorem looseReference?_eq_none_iff {waiting : List Expression} :
    policy.looseReference? waiting = none ↔ policy.AllDefined waiting := by
  fun_induction looseReference? policy waiting with
  | case1 => simp [AllDefined]
  | case2 expression waiting reference found =>
      rw [allDefined_cons_iff]
      have loose := List.find?_some found
      have own := List.mem_of_find?_eq_some found
      simp only [Bool.not_eq_true'] at loose
      constructor
      · intro impossible
        cases impossible
      · rintro ⟨defined, _⟩
        have isDefined := defined reference own
        rw [loose] at isDefined
        cases isDefined
  | case3 expression waiting notFound induction =>
      rw [allDefined_cons_iff, induction]
      have defined : ∀ reference ∈ expression.ownReferences, policy.defines reference = true := by
        simpa using List.find?_eq_none.mp notFound
      exact ⟨fun others => ⟨defined, others⟩, fun both => both.2⟩

theorem mentions_of_looseReference? {waiting : List Expression} {reference : Reference}
    (found : policy.looseReference? waiting = some reference) :
    (∃ expression ∈ waiting, expression.Mentions reference) ∧ policy.defines reference = false := by
  fun_induction looseReference? policy waiting with
  | case1 => cases found
  | case2 expression waiting first isFirst =>
      cases found
      have own := List.mem_of_find?_eq_some isFirst
      refine ⟨⟨expression, by simp, Expression.mentions_iff.mpr (.inl own)⟩, ?_⟩
      simpa using List.find?_some isFirst
  | case3 expression waiting notFound induction =>
      rcases induction found with ⟨⟨holder, waits, mentions⟩, loose⟩
      refine ⟨?_, loose⟩
      rcases List.mem_append.mp waits with below | behind
      · have child : holder ∈ expression.children := List.mem_reverse.mp below
        exact ⟨expression, by simp, Expression.mentions_iff.mpr (.inr ⟨holder, child, mentions⟩)⟩
      · exact ⟨holder, by simp [behind], mentions⟩

theorem sound_iff_allDefined :
    policy.Sound ↔ policy.AllDefined (policy.rules.entries.map (·.2)).reverse := by
  simp only [Sound, Mentions, AllDefined, List.mem_reverse, List.mem_map]
  constructor
  · rintro sound expression ⟨entry, member, rfl⟩ reference mentions
    exact sound reference ⟨entry, member, mentions⟩
  · rintro defined reference ⟨entry, member, mentions⟩
    exact defined entry.2 ⟨entry, member, rfl⟩ reference mentions

theorem checked_eq_ok_iff {accepted : Module} :
    policy.checked = .ok accepted ↔ accepted = policy ∧ policy.Sound := by
  rw [sound_iff_allDefined, ← looseReference?_eq_none_iff]
  unfold checked
  split
  · rename_i found
    simp [found]
  · rename_i found
    simp [found, eq_comm]

theorem checked_eq_error {fault : LoadError} (failed : policy.checked = .error fault) :
    ∃ reference, fault = .undefined policy.package reference ∧ policy.Mentions reference ∧
      policy.defines reference = false := by
  unfold checked at failed
  split at failed
  · rename_i reference found
    cases failed
    rcases mentions_of_looseReference? found with ⟨⟨expression, waits, mentions⟩, loose⟩
    rcases List.mem_map.mp (List.mem_reverse.mp waits) with ⟨entry, member, rfl⟩
    exact ⟨reference, rfl, ⟨entry, member, mentions⟩, loose⟩
  · cases failed

end Module

end TokenAuthority.Policy
