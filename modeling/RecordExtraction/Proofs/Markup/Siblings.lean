import Mathlib
import RecordExtraction.Proofs.Markup.Nesting

/-!
# Parents and siblings

The parent of a node is the nearest of the nodes around it, and the members of a node are the
outermost of the nodes inside it.  Going outwards from a node, every step leaves a member of the
next node behind; so a node that comes after another one lies in a sibling that follows the other
one, or that follows a node around it, and a node that comes before lies in a sibling that precedes.
-/

namespace RecordExtraction
namespace Markup

namespace Content

theorem Encloses.trans {content : Content} {first outer middle inner : Nat}
    (houter : content.Encloses first outer middle) (hinner : content.Encloses first middle inner) :
    content.Encloses first outer inner := by
  induction houter with
  | own hafter hwithin =>
      have hmiddle := hinner.bounds
      rcases encloses_element_iff.mp hinner with h | h | h
      · omega
      · have hbounds := h.bounds
        exact .own (by omega) (by omega)
      · have hbounds := h.bounds
        omega
  | deeper h ih =>
      have hchildren := h.bounds
      rcases encloses_element_iff.mp hinner with h' | h' | h'
      · omega
      · exact .deeper (ih h')
      · have hbounds := h'.bounds
        omega
  | afterElement h ih =>
      have hrest := h.bounds
      rcases encloses_element_iff.mp hinner with h' | h' | h'
      · omega
      · have hbounds := h'.bounds
        omega
      · exact .afterElement (ih h')
  | afterLeaf h ih =>
      exact .afterLeaf (ih (encloses_leaf_iff.mp hinner))

end Content

namespace Document

variable {document : Document} {id other outer inner parent member stop : Nat}

theorem Encloses.trans (houter : document.Encloses outer id)
    (hinner : document.Encloses id inner) :
    document.Encloses outer inner := by
  have hsize := hinner.lt_size
  have hlt := hinner.lt
  cases houter with
  | root hafter hnode => exact .root (by omega) hsize
  | content houter =>
      have hbounds := houter.bounds
      cases hinner with
      | root hafter hnode => omega
      | content hinner => exact .content (houter.trans hinner)

theorem le_last (document : Document) (id : Nat) : id ≤ document.last id :=
  Nat.le_add_right id _

/-- A node that lies inside another one ends before the other one does, or with it. -/
theorem Encloses.last_le (h : document.Encloses outer inner) :
    document.last inner ≤ document.last outer := by
  have hwithin : inner ≤ document.last outer := (encloses_iff.mp h).2
  rcases Nat.lt_or_ge inner (document.last inner) with hlast | hlast
  · have hend : document.Encloses inner (document.last inner) :=
      encloses_iff.mpr ⟨hlast, Nat.le_refl _⟩
    exact (encloses_iff.mp (h.trans hend)).2
  · omega

/-! ## Parents -/

theorem range_reverse_decreasing (n : Nat) : (List.range n).reverse.Pairwise (· > ·) :=
  List.pairwise_reverse.mpr List.pairwise_lt_range

theorem ancestors_decreasing (document : Document) (id : Nat) :
    (document.ancestors id).Pairwise (· > ·) :=
  (range_reverse_decreasing id).filter _

theorem preceding_decreasing (document : Document) (id : Nat) :
    (document.preceding id).Pairwise (· > ·) :=
  (range_reverse_decreasing id).filter _

/-- The parent is the nearest of the nodes around a node. -/
theorem parent?_eq_some_iff :
    document.parent? id = some parent ↔
      document.Encloses parent id ∧ ∀ outer, document.Encloses outer id → outer ≤ parent := by
  have hdecreasing := document.ancestors_decreasing id
  simp only [parent?, ← mem_ancestors]
  cases hancestors : document.ancestors id with
  | nil => simp
  | cons nearest farther =>
      rw [hancestors, List.pairwise_cons] at hdecreasing
      have hnearest : ∀ outer ∈ nearest :: farther, outer ≤ nearest := by
        intro outer houter
        rcases List.mem_cons.mp houter with rfl | houter
        · exact Nat.le_refl _
        · exact Nat.le_of_lt (hdecreasing.1 outer houter)
      simp only [List.head?_cons, Option.some.injEq]
      constructor
      · rintro rfl
        exact ⟨List.mem_cons_self, hnearest⟩
      · rintro ⟨hparent, hgreatest⟩
        exact Nat.le_antisymm (hgreatest nearest List.mem_cons_self) (hnearest parent hparent)

theorem exists_parent (hpos : 0 < id) (hid : id < document.size) :
    ∃ parent, document.parent? id = some parent := by
  have hroot : 0 ∈ document.ancestors id := mem_ancestors.mpr (.root hpos hid)
  unfold parent?
  cases hancestors : document.ancestors id with
  | nil =>
      rw [hancestors] at hroot
      cases hroot
  | cons nearest farther => exact ⟨nearest, rfl⟩

/-! ## Members -/

theorem bounds_of_mem_membersFrom (hmember : member ∈ document.membersFrom id stop) :
    id ≤ member ∧ member ≤ stop := by
  induction id using membersFrom.induct document stop with
  | case1 id hle ih =>
      rw [membersFrom, if_pos hle] at hmember
      rcases List.mem_cons.mp hmember with rfl | hmember
      · exact ⟨Nat.le_refl _, hle⟩
      · have hbounds := ih hmember
        have hlast := document.le_last id
        omega
  | case2 id hlt =>
      rw [membersFrom, if_neg hlt] at hmember
      cases hmember

theorem membersFrom_increasing (document : Document) (id stop : Nat) :
    (document.membersFrom id stop).Pairwise (· < ·) := by
  induction id using membersFrom.induct document stop with
  | case1 id hle ih =>
      rw [membersFrom, if_pos hle]
      apply List.pairwise_cons.mpr ⟨?_, ih⟩
      intro member hmember
      have hbounds := bounds_of_mem_membersFrom hmember
      have hlast := document.le_last id
      omega
  | case2 id hlt =>
      rw [membersFrom, if_neg hlt]
      exact List.Pairwise.nil

/-- The members from one number to another leave out no node between the two. -/
theorem exists_mem_membersFrom (hfirst : id ≤ inner) (hstop : inner ≤ stop) :
    ∃ member ∈ document.membersFrom id stop, member ≤ inner ∧ inner ≤ document.last member := by
  induction id using membersFrom.induct document stop with
  | case1 id hle ih =>
      rw [membersFrom, if_pos hle]
      rcases Nat.lt_or_ge (document.last id) inner with hafter | hwithin
      · obtain ⟨member, hmember, hcovers⟩ := ih (by omega)
        exact ⟨member, List.mem_cons_of_mem _ hmember, hcovers⟩
      · exact ⟨id, List.mem_cons_self, hfirst, hwithin⟩
  | case2 id hlt => omega

/-! ## Siblings -/

theorem followingSiblings_increasing (document : Document) (id : Nat) :
    (document.followingSiblings id).Pairwise (· < ·) := by
  unfold followingSiblings
  split
  · exact document.membersFrom_increasing _ _
  · exact List.Pairwise.nil

theorem precedingSiblings_decreasing (document : Document) (id : Nat) :
    (document.precedingSiblings id).Pairwise (· > ·) := by
  unfold precedingSiblings
  split
  · apply List.pairwise_reverse.mpr
    exact (document.membersFrom_increasing _ _).filter _
  · exact List.Pairwise.nil

theorem bounds_of_mem_followingSiblings (hsibling : other ∈ document.followingSiblings id) :
    document.last id < other ∧ other < document.size := by
  unfold followingSiblings at hsibling
  split at hsibling
  · next parent hparent =>
      obtain ⟨hafter, hwithin⟩ := bounds_of_mem_membersFrom hsibling
      obtain ⟨hencloses, -⟩ := parent?_eq_some_iff.mp hparent
      have hlt := hencloses.lt
      have hlast := document.le_last id
      have hinner : document.Encloses parent other := encloses_iff.mpr ⟨by omega, hwithin⟩
      exact ⟨hafter, hinner.lt_size⟩
  · cases hsibling

/-- The node itself, or a node inside it. -/
def Covers (document : Document) (outer inner : Nat) : Prop :=
  outer = inner ∨ document.Encloses outer inner

theorem covers_iff : document.Covers outer inner ↔ outer ≤ inner ∧ inner ≤ document.last outer := by
  have hlast := document.le_last outer
  unfold Covers
  rw [encloses_iff]
  omega

theorem Covers.last_le (h : document.Covers outer inner) :
    document.last inner ≤ document.last outer := by
  rcases h with rfl | h
  · exact Nat.le_refl _
  · exact h.last_le

theorem Covers.of_encloses_parent (hparent : document.parent? id = some parent)
    (hcovers : document.Covers outer parent) :
    document.Covers outer id := by
  obtain ⟨hencloses, -⟩ := parent?_eq_some_iff.mp hparent
  rcases hcovers with rfl | hcovers
  · exact .inr hencloses
  · exact .inr (hcovers.trans hencloses)

/-! ## Members by their parents -/

/-- The members from one number on are the nodes that lie inside none of the nodes from there on. -/
theorem mem_membersFrom :
    member ∈ document.membersFrom id stop ↔
      id ≤ member ∧ member ≤ stop ∧ ∀ outer, document.Encloses outer member → outer < id := by
  induction id using membersFrom.induct document stop with
  | case1 id hle ih =>
      have hlast := document.le_last id
      rw [membersFrom, if_pos hle, List.mem_cons, ih]
      constructor
      · intro h
        rcases h with rfl | ⟨hafter, hwithin, houtermost⟩
        · exact ⟨Nat.le_refl _, hle, fun outer houter => houter.lt⟩
        · refine ⟨by omega, hwithin, ?_⟩
          intro outer houter
          by_contra hstart
          have hcovers : document.Covers id outer :=
            covers_iff.mpr ⟨by omega, Nat.lt_succ_iff.mp (houtermost outer houter)⟩
          have hend := hcovers.last_le
          have hreach := (encloses_iff.mp houter).2
          omega
      · intro h
        obtain ⟨hstart, hwithin, houtermost⟩ := h
        by_cases hfirst : member = id
        · exact .inl hfirst
        · have hinside : ¬document.Encloses id member :=
            fun hencloses => Nat.lt_irrefl id (houtermost id hencloses)
          rw [encloses_iff] at hinside
          refine .inr ⟨by omega, hwithin, ?_⟩
          intro outer houter
          have hbefore := houtermost outer houter
          omega
  | case2 id hlt =>
      rw [membersFrom, if_neg hlt]
      constructor
      · intro h
        cases h
      · intro h
        omega

theorem mem_children :
    member ∈ document.children parent ↔ document.parent? member = some parent := by
  rw [children, mem_membersFrom, parent?_eq_some_iff, encloses_iff]
  simp only [Nat.lt_succ_iff, Nat.succ_le_iff, and_assoc]

/-- The siblings after a node are the members of the same parent with greater numbers. -/
theorem mem_followingSiblings :
    other ∈ document.followingSiblings id ↔
      id < other ∧ ∃ parent, document.parent? id = some parent ∧
        document.parent? other = some parent := by
  unfold followingSiblings
  cases hparent : document.parent? id with
  | none => simp
  | some parent =>
      have hlast := document.le_last id
      obtain ⟨hencloses, hnearest⟩ := parent?_eq_some_iff.mp hparent
      have hbefore := hencloses.lt
      simp only [Option.some.injEq, exists_eq_left', mem_membersFrom, ← mem_children, children]
      constructor
      · intro h
        obtain ⟨hafter, hwithin, houtermost⟩ := h
        refine ⟨by omega, by omega, hwithin, ?_⟩
        intro outer houter
        have hreach := (encloses_iff.mp houter).2
        have hstart := houtermost outer houter
        by_cases hinside : id ≤ outer
        · -- A node in the one that came before ends before the other one begins.
          have hcovers : document.Covers id outer := covers_iff.mpr ⟨hinside, by omega⟩
          have hend := hcovers.last_le
          omega
        · have hnear := hnearest outer (encloses_iff.mpr ⟨by omega, by omega⟩)
          omega
      · intro h
        obtain ⟨hlater, hafter, hwithin, houtermost⟩ := h
        have hbeyond : document.last id < other := by
          by_contra hreach
          have hstart := houtermost id (encloses_iff.mpr ⟨hlater, by omega⟩)
          omega
        refine ⟨hbeyond, hwithin, ?_⟩
        intro outer houter
        have hstart := houtermost outer houter
        omega

/-- The siblings before a node are the members of the same parent with smaller numbers. -/
theorem mem_precedingSiblings :
    other ∈ document.precedingSiblings id ↔
      other < id ∧ ∃ parent, document.parent? id = some parent ∧
        document.parent? other = some parent := by
  unfold precedingSiblings
  cases hparent : document.parent? id with
  | none => simp
  | some parent =>
      simp only [List.mem_reverse, List.mem_filter, mem_children, decide_eq_true_eq,
        Option.some.injEq, exists_eq_left']
      exact and_comm

theorem last_lt_of_mem_precedingSiblings (hsibling : other ∈ document.precedingSiblings id) :
    document.last other < id := by
  obtain ⟨hbefore, parent, hparent, hother⟩ := mem_precedingSiblings.mp hsibling
  have hfollows : id ∈ document.followingSiblings other :=
    mem_followingSiblings.mpr ⟨hbefore, parent, hother, hparent⟩
  exact (bounds_of_mem_followingSiblings hfollows).1

/-! ## What comes after and before -/

/-- The nodes that begin after a node has ended are those that lie in a sibling that follows the
node or one of the nodes around it. -/
theorem mem_following_iff_exists_sibling (hid : id < document.size) :
    other ∈ document.following id ↔
      ∃ outer, document.Covers outer id ∧
        ∃ sibling ∈ document.followingSiblings outer, document.Covers sibling other := by
  have hmem : other ∈ document.following id ↔ other < document.size ∧ document.last id < other := by
    simp [following, all]
  rw [hmem]
  clear hmem
  constructor
  · rintro ⟨hother, hafter⟩
    induction id using Nat.strong_induction_on with
    | h id ih =>
      have hlast := document.le_last id
      rcases Nat.eq_zero_or_pos id with rfl | hpos
      · -- Nothing comes after the root.
        have hsize := document.size_eq
        rw [last, extent_zero] at hafter
        omega
      · obtain ⟨parent, hparent⟩ := exists_parent hpos hid
        have hlt := (parent?_eq_some_iff.mp hparent).1.lt
        rcases Nat.lt_or_ge (document.last parent) other with hbeyond | hwithin
        · obtain ⟨outer, houter, hsibling⟩ := ih parent hlt (by omega) hbeyond
          exact ⟨outer, .of_encloses_parent hparent houter, hsibling⟩
        · obtain ⟨sibling, hsibling, hcovers⟩ :=
            document.exists_mem_membersFrom (Nat.succ_le_of_lt hafter) hwithin
          refine ⟨id, .inl rfl, sibling, ?_, covers_iff.mpr hcovers⟩
          simpa [followingSiblings, hparent] using hsibling
  · rintro ⟨outer, houter, sibling, hsibling, hcovers⟩
    obtain ⟨hafter, hsize⟩ := bounds_of_mem_followingSiblings hsibling
    have hend := houter.last_le
    have hstart := covers_iff.mp hcovers
    rcases hcovers with rfl | hcovers
    · exact ⟨hsize, by omega⟩
    · exact ⟨hcovers.lt_size, by omega⟩

/-- The nodes that end before a node begins are those that lie in a sibling that precedes the node
or one of the nodes around it. -/
theorem mem_preceding_iff_exists_sibling (hid : id < document.size) :
    other ∈ document.preceding id ↔
      ∃ outer, document.Covers outer id ∧
        ∃ sibling ∈ document.precedingSiblings outer, document.Covers sibling other := by
  have hmem : other ∈ document.preceding id ↔ document.last other < id := by
    have hlast := document.le_last other
    simp only [preceding, List.mem_filter, List.mem_reverse, List.mem_range, decide_eq_true_eq]
    omega
  rw [hmem]
  clear hmem
  constructor
  · intro hbefore
    induction id using Nat.strong_induction_on with
    | h id ih =>
      have hlast := document.le_last other
      obtain ⟨parent, hparent⟩ := exists_parent (by omega) hid
      obtain ⟨hencloses, -⟩ := parent?_eq_some_iff.mp hparent
      have hlt := hencloses.lt
      have hwithin := (encloses_iff.mp hencloses).2
      rcases Nat.lt_or_ge parent other with hinside | houtside
      · obtain ⟨sibling, hsibling, hcovers⟩ :=
          document.exists_mem_membersFrom (Nat.succ_le_of_lt hinside)
            (show other ≤ document.last parent by omega)
        refine ⟨id, .inl rfl, sibling, ?_, covers_iff.mpr hcovers⟩
        have hchild : sibling ∈ document.children parent := hsibling
        simp only [precedingSiblings, hparent, List.mem_reverse, List.mem_filter,
          decide_eq_true_eq]
        exact ⟨hchild, by omega⟩
      · -- The other node neither is the parent nor holds it, for it ends before the node.
        have hbeyond : document.last other < parent := by
          by_contra hreaches
          have hholds : document.Covers other parent := covers_iff.mpr ⟨houtside, by omega⟩
          have hend := hholds.last_le
          omega
        obtain ⟨outer, houter, hsibling⟩ := ih parent hlt (by omega) hbeyond
        exact ⟨outer, .of_encloses_parent hparent houter, hsibling⟩
  · rintro ⟨outer, houter, sibling, hsibling, hcovers⟩
    have hbefore := last_lt_of_mem_precedingSiblings hsibling
    have hend := hcovers.last_le
    have hstart := (covers_iff.mp houter).1
    omega

end Document
end Markup
end RecordExtraction
