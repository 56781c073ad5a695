import RelationGraph.Tuple

set_option autoImplicit false

namespace RelationGraph

theorem Binary64.sameNumber_trans {x y z : Binary64} (first : x.sameNumber y = true)
    (second : y.sameNumber z = true) : x.sameNumber z = true := by
  simp only [sameNumber, Bool.or_eq_true, beq_iff_eq, Bool.and_eq_true] at first second ⊢
  rcases first with rfl | ⟨zero, middle⟩
  · exact second
  · rcases second with rfl | ⟨_, last⟩
    · exact Or.inr ⟨zero, middle⟩
    · exact Or.inr ⟨zero, last⟩

namespace Number

theorem sameNumber_refl (m : Number) : m.sameNumber m = true := by
  cases m <;> simp [sameNumber]

theorem sameNumber_symm {m n : Number} (equal : m.sameNumber n = true) :
    n.sameNumber m = true := by
  cases m <;> cases n <;> simp_all [sameNumber]
  rw [Binary64.sameNumber_comm]
  exact equal

theorem sameNumber_trans {m n k : Number} (first : m.sameNumber n = true)
    (second : n.sameNumber k = true) : m.sameNumber k = true := by
  cases m <;> cases n <;> cases k <;> simp_all [sameNumber]
  exact Binary64.sameNumber_trans first second

end Number

namespace Json

mutual

theorem same_refl (value : Json) : same value value = true := by
  cases value with
  | null => rfl
  | bool truth => simp [same]
  | number n => simp [same, Number.sameNumber_refl]
  | string text => simp [same]
  | array items => simpa only [same] using sameItems_refl items
  | object members => simpa only [same] using sameMembers_refl members

theorem sameItems_refl (items : List Json) : sameItems items items = true := by
  cases items with
  | nil => rfl
  | cons item rest => simp [sameItems, same_refl item, sameItems_refl rest]

theorem sameMembers_refl (members : List (String × Json)) :
    sameMembers members members = true := by
  cases members with
  | nil => rfl
  | cons member rest => simp [sameMembers, same_refl member.2, sameMembers_refl rest]

end

mutual

theorem same_symm (a b : Json) (equal : same a b = true) : same b a = true := by
  cases a <;> cases b <;> simp_all [same]
  case number m n => exact Number.sameNumber_symm equal
  case array items others => exact sameItems_symm items others equal
  case object members others => exact sameMembers_symm members others equal

theorem sameItems_symm (items others : List Json) (equal : sameItems items others = true) :
    sameItems others items = true := by
  cases items with
  | nil => cases others <;> simp_all [sameItems]
  | cons item rest =>
    cases others with
    | nil => simp [sameItems] at equal
    | cons other others =>
      simp only [sameItems, Bool.and_eq_true] at equal ⊢
      exact ⟨same_symm item other equal.1, sameItems_symm rest others equal.2⟩

theorem sameMembers_symm (members others : List (String × Json))
    (equal : sameMembers members others = true) : sameMembers others members = true := by
  cases members with
  | nil => cases others <;> simp_all [sameMembers]
  | cons member rest =>
    cases others with
    | nil => simp [sameMembers] at equal
    | cons other others =>
      simp only [sameMembers, Bool.and_eq_true, beq_iff_eq] at equal ⊢
      exact ⟨⟨equal.1.1.symm, same_symm member.2 other.2 equal.1.2⟩,
        sameMembers_symm rest others equal.2⟩

end

mutual

theorem same_trans (a b c : Json) (first : same a b = true) (second : same b c = true) :
    same a c = true := by
  cases a <;> cases b <;> cases c <;> simp_all [same]
  case number m n k => exact Number.sameNumber_trans first second
  case array items middle others => exact sameItems_trans items middle others first second
  case object members middle others => exact sameMembers_trans members middle others first second
termination_by structural a

theorem sameItems_trans (items middle others : List Json)
    (first : sameItems items middle = true) (second : sameItems middle others = true) :
    sameItems items others = true := by
  cases items with
  | nil => cases middle <;> cases others <;> simp_all [sameItems]
  | cons item rest =>
    cases middle with
    | nil => simp [sameItems] at first
    | cons between middle =>
      cases others with
      | nil => simp [sameItems] at second
      | cons other others =>
        simp only [sameItems, Bool.and_eq_true] at first second ⊢
        exact ⟨same_trans item between other first.1 second.1,
          sameItems_trans rest middle others first.2 second.2⟩
termination_by structural items

theorem sameMembers_trans (members middle others : List (String × Json))
    (first : sameMembers members middle = true) (second : sameMembers middle others = true) :
    sameMembers members others = true := by
  cases members with
  | nil => cases middle <;> cases others <;> simp_all [sameMembers]
  | cons member rest =>
    obtain ⟨key, value⟩ := member
    cases middle with
    | nil => simp [sameMembers] at first
    | cons between middle =>
      cases others with
      | nil => simp [sameMembers] at second
      | cons other others =>
        simp only [sameMembers, Bool.and_eq_true, beq_iff_eq] at first second ⊢
        exact ⟨⟨first.1.1.trans second.1.1,
            same_trans value between.2 other.2 first.1.2 second.1.2⟩,
          sameMembers_trans rest middle others first.2 second.2⟩
termination_by structural members

end

instance : EquivBEq Json where
  rfl := same_refl _
  symm := same_symm _ _
  trans := same_trans _ _ _

end Json

end RelationGraph
