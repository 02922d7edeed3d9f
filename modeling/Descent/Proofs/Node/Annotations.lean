import Descent.Meta

/-!
# Looking up Annotations

Annotations are kept in the order of their names so that equal ones are equal
as data; whoever uses them asks for a name. Here every operation is told by
what is found under a name afterwards: setting an annotation changes what is
found under its own name and nothing else, and of two sets of annotations the
one on top is asked first.

Nothing but the lookups counts. Two sets of annotations in which the same is
found under every name are the same set, so an equation between annotations
is an equation between lookups (`eq_of_get?`).

## Theorems

* `lookup_putMember`: What is found after a member was set.
* `eq_of_lookup`: Members in order are determined by what is found.
* `get?_insert`, `get?_insertAll`, `get?_merge`: What is found in annotations.
* `eq_of_get?`: Annotations are determined by what is found.
* `merge_merge`: Laying annotations on top once more changes nothing.
-/

namespace Descent

open Json

namespace Json

theorem lookup_putMember {α : Type} (key other : String) (value : α)
    (members : List (String × α)) :
    (putMember key value members).lookup other =
      if other = key then some value else members.lookup other := by
  induction members with
  | nil => grind [putMember]
  | cons head rest ih =>
      rcases head with ⟨k, v⟩
      grind [putMember]

theorem lookup_cons_of_ne {α : Type} {key k : String} (hne : key ≠ k) (v : α)
    (rest : List (String × α)) : ((k, v) :: rest).lookup key = rest.lookup key := by
  have hoff : (key == k) = false := beq_eq_false_iff_ne.2 hne
  rw [List.lookup_cons, hoff]

theorem lookup_eq_none_of_lt {α : Type} {key : String} {members : List (String × α)}
    (hleast : ∀ m ∈ members, key < m.1) : members.lookup key = none := by
  rw [List.lookup_eq_none_iff]
  intro m hm
  have hne : key ≠ m.1 := fun heq => String.lt_irrefl _ (heq ▸ hleast m hm)
  simpa using hne

namespace Value

/-- No key is found in front of the first one. -/
theorem not_lt_of_lookup {key k : String} {v w : Value} {rest : List (String × Value)}
    (horder : MembersInOrder ((k, v) :: rest))
    (hfound : ((k, v) :: rest).lookup key = some w) : ¬ key < k := by
  intro hlt
  have hleast : ∀ m ∈ (k, v) :: rest, key < m.1 :=
    List.forall_mem_cons.2 ⟨hlt, fun m hm => String.lt_trans hlt (horder.1 m hm)⟩
  rw [lookup_eq_none_of_lt hleast] at hfound
  cases hfound

/-- Members in order are the same if the same is found under every key. The
    first key of either list is found in the other, so both start with the
    same one. -/
theorem eq_of_lookup (xs ys : List (String × Value)) (hxs : MembersInOrder xs)
    (hys : MembersInOrder ys) (hsame : ∀ key, xs.lookup key = ys.lookup key) : xs = ys := by
  induction xs generalizing ys with
  | nil =>
      cases ys with
      | nil => rfl
      | cons y ys =>
          have hfound := hsame y.1
          rw [List.lookup_cons_self] at hfound
          cases hfound
  | cons x xs ih =>
      rcases x with ⟨k, v⟩
      have hk : ys.lookup k = some v := by rw [← hsame k, List.lookup_cons_self]
      cases ys with
      | nil => cases hk
      | cons y ys =>
          rcases y with ⟨l, w⟩
          have hl : ((k, v) :: xs).lookup l = some w := by rw [hsame l, List.lookup_cons_self]
          have hkey : k = l := String.le_antisymm (String.not_lt.1 (not_lt_of_lookup hxs hl))
            (String.not_lt.1 (not_lt_of_lookup hys hk))
          subst hkey
          have hvalue : v = w := by
            rw [List.lookup_cons_self] at hk
            exact (Option.some.inj hk).symm
          have hrest : ∀ key, xs.lookup key = ys.lookup key := by
            intro key
            by_cases heq : key = k
            -- The key in front does not come again on either side.
            · rw [heq, lookup_eq_none_of_lt hxs.1, lookup_eq_none_of_lt hys.1]
            · rw [← lookup_cons_of_ne heq v xs, ← lookup_cons_of_ne heq w ys, hsame key]
          rw [hvalue, ih ys hxs.2.2 hys.2.2 hrest]

end Value

end Json

namespace Meta

theorem get?_insert (m : Meta) (name other : String) (value : Value) :
    (m.insert name value).get? other =
      if other = name then some value.sorted else m.get? other :=
  lookup_putMember name other value.sorted m.entries

/-- Entries in order are found as they are, in front of what there was. -/
theorem get?_insertAll (m : Meta) (entries : List (String × Value))
    (horder : Value.MembersInOrder entries) (name : String) :
    (m.insertAll entries).get? name = (entries.lookup name).or (m.get? name) := by
  induction entries generalizing m with
  | nil => rfl
  | cons e rest ih =>
      rcases e with ⟨key, value⟩
      rcases horder with ⟨hleast, hvalue, hrest⟩
      have hstep : (m.insertAll ((key, value) :: rest)).get? name =
          (rest.lookup name).or ((m.insert key value).get? name) := ih (m.insert key value) hrest
      rw [hstep, get?_insert, Value.sorted_of_inOrder value hvalue]
      by_cases heq : name = key
      · rw [heq, lookup_eq_none_of_lt hleast, List.lookup_cons_self, if_pos rfl]
        rfl
      · rw [lookup_cons_of_ne heq, if_neg heq]

theorem get?_merge (m other : Meta) (name : String) :
    (m.merge other).get? name = (other.get? name).or (m.get? name) :=
  m.get?_insertAll other.entries other.inOrder name

theorem eq_of_get? (m other : Meta) (hsame : ∀ name, m.get? name = other.get? name) :
    m = other :=
  Meta.ext (Value.eq_of_lookup m.entries other.entries m.inOrder other.inOrder hsame)

theorem merge_merge (m other : Meta) : (m.merge other).merge other = m.merge other := by
  refine eq_of_get? _ _ (fun name => ?_)
  rw [get?_merge, get?_merge]
  cases other.get? name with
  | none => rfl
  | some value => rfl

end Meta

end Descent
