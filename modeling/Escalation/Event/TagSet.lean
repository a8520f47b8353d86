/-!
# Sets of tags

The tags of a decision, each once, in ascending order.
-/

namespace Escalation

/-- Tags in ascending order, each once. Adding a tag that is there and removing one that is not
change nothing. -/
structure TagSet where
  tags : List String
  ascending : tags.Pairwise (· < ·)
deriving DecidableEq, Repr

namespace TagSet

@[ext]
theorem ext {a b : TagSet} (h : a.tags = b.tags) : a = b := by
  cases a; cases b; cases h; rfl

def empty : TagSet :=
  ⟨[], .nil⟩

instance : EmptyCollection TagSet := ⟨empty⟩
instance : Inhabited TagSet := ⟨empty⟩

def insertTag (tag : String) : List String → List String
  | [] => [tag]
  | t :: tags =>
    if tag < t then tag :: t :: tags
    else if t = tag then t :: tags
    else t :: insertTag tag tags

theorem mem_insertTag {tag s : String} :
    {tags : List String} → (s ∈ insertTag tag tags ↔ s = tag ∨ s ∈ tags)
  | [] => by simp [insertTag]
  | t :: tags => by
    unfold insertTag
    split
    · simp
    · split
      · next eq => subst eq; simp
      · have ih : s ∈ insertTag tag tags ↔ s = tag ∨ s ∈ tags := mem_insertTag
        simp only [List.mem_cons, ih]
        grind

theorem ascending_insertTag (tag : String) :
    {tags : List String} → tags.Pairwise (· < ·) → (insertTag tag tags).Pairwise (· < ·)
  | [], _ => by simp [insertTag]
  | t :: tags, h => by
    have hd := (List.pairwise_cons.1 h).1
    have tl := (List.pairwise_cons.1 h).2
    unfold insertTag
    split
    · next lt =>
      refine List.pairwise_cons.2 ⟨fun s hs => ?_, h⟩
      rcases List.mem_cons.1 hs with rfl | hs
      · exact lt
      · exact String.lt_trans lt (hd s hs)
    · next nlt =>
      split
      · exact h
      · next ne =>
        have lt : t < tag := by
          apply Decidable.byContradiction
          intro nlt'
          exact ne (String.le_antisymm (String.not_lt.1 nlt) (String.not_lt.1 nlt'))
        refine List.pairwise_cons.2 ⟨fun s hs => ?_, ascending_insertTag tag tl⟩
        rcases mem_insertTag.1 hs with rfl | hs
        · exact lt
        · exact hd s hs

def insert (set : TagSet) (tag : String) : TagSet :=
  ⟨insertTag tag set.tags, ascending_insertTag tag set.ascending⟩

def erase (set : TagSet) (tag : String) : TagSet :=
  ⟨set.tags.filter (· != tag), set.ascending.filter _⟩

def insertAll (set : TagSet) (tags : List String) : TagSet :=
  tags.foldl insert set

def eraseAll (set : TagSet) (tags : List String) : TagSet :=
  tags.foldl erase set

def ofList (tags : List String) : TagSet :=
  empty.insertAll tags

end TagSet

end Escalation
