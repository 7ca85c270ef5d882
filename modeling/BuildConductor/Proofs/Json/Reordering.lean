import BuildConductor.Proofs.Json.Syntax

/-! Texts with their members in another order.

`Tree.Reordered` relates trees that differ in nothing but the order of the members of
their objects, at any depth. A text that is written for a reordered list or object is
taken apart by `Written.of_array` and `Written.of_object`: it has the same items in the
same order, or the same members in some order, each of them reordered within. -/
namespace BuildConductor

/-- What holds of the elements of two lists that are mapped to the same list holds of
them pair by pair. -/
theorem forall₂_of_map_eq {α β γ : Type} {f : α → γ} {g : β → γ} {P : α → Prop} {Q : β → Prop}
    {as : List α} {bs : List β} (h : as.map f = bs.map g) (hP : ∀ a ∈ as, P a)
    (hQ : ∀ b ∈ bs, Q b) : List.Forall₂ (fun a b => f a = g b ∧ P a ∧ Q b) as bs := by
  induction as generalizing bs with
  | nil =>
    cases bs with
    | nil => exact .nil
    | cons b bs => cases h
  | cons a as ih =>
    cases bs with
    | nil => cases h
    | cons b bs =>
      rw [List.map_cons, List.map_cons, List.cons.injEq] at h
      rw [List.forall_mem_cons] at hP hQ
      exact .cons ⟨h.1, hP.1, hQ.1⟩ (ih h.2 hP.2 hQ.2)

/-- Lists that are related stay so when they are mapped, if each pair does. -/
theorem forall₂_map_of_mem {α β γ δ : Type} {R : α → β → Prop} {S : γ → δ → Prop} {f : α → γ}
    {g : β → δ} {as : List α} {bs : List β} (h : List.Forall₂ R as bs)
    (himp : ∀ b ∈ bs, ∀ a, R a b → S (f a) (g b)) : List.Forall₂ S (as.map f) (bs.map g) := by
  induction h with
  | nil => exact .nil
  | cons hab _ ih =>
    rw [List.forall_mem_cons] at himp
    exact .cons (himp.1 _ hab) (ih himp.2)

namespace Json

/-- Whether two trees differ in nothing but the order of the members of objects. -/
inductive Tree.Reordered : Tree → Tree → Prop
  | scalar (text : List Char) : Reordered (.scalar text) (.scalar text)
  | array {pairs : List (Tree × Tree)} (h : ∀ pair ∈ pairs, Reordered pair.1 pair.2) :
    Reordered (.array (pairs.map Prod.fst)) (.array (pairs.map Prod.snd))
  | object {pairs others : List (List Char × Tree × Tree)}
    (h : ∀ pair ∈ pairs, Reordered pair.2.1 pair.2.2) (hperm : pairs.Perm others) :
    Reordered (.object (pairs.map fun pair => (pair.1, pair.2.1)))
      (.object (others.map fun pair => (pair.1, pair.2.2)))

/-- Whether no text is spelled by both keys. -/
def DifferentKeys (key other : List Char) : Prop :=
  ∀ text, SpellsChars key text → ¬SpellsChars other text

theorem DifferentKeys.symm {key other : List Char} (h : DifferentKeys key other) :
    DifferentKeys other key :=
  fun text hother hkey => h text hkey hother

/-- Keys that are read as different texts are different. -/
theorem differentKeys_of_read {key other : List Char}
    (h : (readString (key ++ ['"'])).toOption ≠ (readString (other ++ ['"'])).toOption) :
    DifferentKeys key other :=
  fun text hkey hother => h (by rw [hkey.read [], hother.read []])

/-- Whether no object of a tree has a key more than once, however it is spelled. -/
inductive Tree.Unrepeated : Tree → Prop
  | scalar (text : List Char) : Unrepeated (.scalar text)
  | array {items : List Tree} (h : ∀ item ∈ items, Unrepeated item) : Unrepeated (.array items)
  | object {members : List (List Char × Tree)}
    (hkeys : members.Pairwise fun m n => DifferentKeys m.1 n.1)
    (h : ∀ member ∈ members, Unrepeated member.2) : Unrepeated (.object members)

/-- The order that a tree is written in is one of its orders. -/
theorem Written.reordered {text : List Char} {tree : Tree} (h : Written text tree) :
    tree.Reordered tree := by
  induction h with
  | scalar => exact .scalar _
  | @array _ branches _ _ _ ih =>
    have hpairs : ∀ pair ∈ branches.map fun branch => (branch.tree, branch.tree),
        pair.1.Reordered pair.2 := List.forall_mem_map.2 ih
    have h := Tree.Reordered.array hpairs
    rwa [List.map_map, List.map_map] at h
  | @object _ members _ _ _ ih =>
    have hpairs : ∀ pair ∈ members.map fun m => (m.keyText, m.branch.tree, m.branch.tree),
        pair.2.1.Reordered pair.2.2 := List.forall_mem_map.2 ih
    have h := Tree.Reordered.object hpairs (.refl _)
    rwa [List.map_map, List.map_map] at h

/-- Whether a branch is written for a tree in some order. -/
structure Branch.Renders (branch : Branch) (tree : Tree) : Prop where
  spaced : branch.Spaced
  written : Written branch.text branch.tree
  reordered : tree.Reordered branch.tree

/-- Whether a member is written for a key and a tree in some order. -/
structure KeyedBranch.Renders (m : KeyedBranch) (member : List Char × Tree) : Prop where
  spaced : m.Spaced
  key : m.keyText = member.1
  branch : m.branch.Renders member.2

/-- A reordered list has the same items. -/
theorem Written.of_array {items : List Tree} {other : Tree} {text : List Char}
    (h : Written text other) (hreordered : (Tree.array items).Reordered other) :
    ∃ blanks branches, AllSpaces blanks ∧
      text = '[' :: (separated blanks (branches.map Branch.written) ++ [']']) ∧
      List.Forall₂ Branch.Renders branches items := by
  cases hreordered with
  | @array pairs hpairs =>
    generalize heq : Tree.array (pairs.map Prod.snd) = other at h
    cases h with
    | @array blanks branches hblanks hspaced hwritten =>
      have hmap : branches.map Branch.tree = pairs.map Prod.snd := (Tree.array.inj heq).symm
      refine ⟨blanks, branches, hblanks, rfl, List.forall₂_map_right_iff.2 ?_⟩
      have hall := forall₂_of_map_eq hmap
        (fun branch hbranch => And.intro (hspaced branch hbranch) (hwritten branch hbranch)) hpairs
      refine hall.imp fun branch pair h => ⟨h.2.1.1, h.2.1.2, ?_⟩
      rw [h.1]
      exact h.2.2
    | scalar => cases heq
    | object => cases heq

/-- A reordered object has the same members in some order. -/
theorem Written.of_object {members : List (List Char × Tree)} {other : Tree} {text : List Char}
    (h : Written text other) (hreordered : (Tree.object members).Reordered other) :
    ∃ blanks branches middle, AllSpaces blanks ∧
      text = '\x7b' :: (separated blanks (branches.map KeyedBranch.written) ++ ['\x7d']) ∧
      members.Perm middle ∧ List.Forall₂ KeyedBranch.Renders branches middle := by
  cases hreordered with
  | @object pairs others hpairs hperm =>
    generalize heq : Tree.object (others.map fun pair => (pair.1, pair.2.2)) = other at h
    cases h with
    | @object blanks branches hblanks hspaced hwritten =>
      have hmap : branches.map KeyedBranch.keyed = others.map fun pair => (pair.1, pair.2.2) :=
        (Tree.object.inj heq).symm
      refine ⟨blanks, branches, others.map fun pair => (pair.1, pair.2.1), hblanks, rfl,
        hperm.map _, List.forall₂_map_right_iff.2 ?_⟩
      have hall := forall₂_of_map_eq hmap
        (fun branch hbranch => And.intro (hspaced branch hbranch) (hwritten branch hbranch))
        fun pair hpair => hpairs pair (hperm.mem_iff.2 hpair)
      refine hall.imp fun branch pair h => ?_
      obtain ⟨hkey, htree⟩ := Prod.mk.inj h.1
      refine ⟨h.2.1.1, hkey, h.2.1.1.branch, h.2.1.2, ?_⟩
      rw [htree]
      exact h.2.2
    | scalar => cases heq
    | array => cases heq

end Json

end BuildConductor
