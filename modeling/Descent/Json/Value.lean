import Descent.Json.Number

/-!
# Values of a Document

The data a document can carry. An object is a list of members; the library
keeps the members of every object in increasing order of their keys, each key
once, so that two objects with the same members are the same list.

## Main definitions

* `Value`: A value of a document.
* `putMember`: Sets a member of an object, in its place.
* `Value.InOrder`: Every object in the value is in key order.
* `Value.sorted`: The value with its objects put in key order.
* `Value.agrees`: Equality of values, with numbers compared as numbers.

## Theorems

* `membersInOrder_putMember`: Setting a member keeps the key order.
* `inOrder_sorted`: Sorting gives key order.
* `sorted_of_inOrder`: Sorting leaves a value in key order alone.
-/

namespace Descent.Json

variable {α : Type}

/-- A value of a document. -/
inductive Value where
  | null
  | boolean (b : Bool)
  | number (n : Number)
  | string (s : String)
  | array (items : List Value)
  | object (members : List (String × Value))

/-- Sets a member among members in key order: an equal key is replaced, a new
    one takes its place. -/
def putMember (key : String) (value : α) : List (String × α) → List (String × α)
  | [] => [(key, value)]
  | (k, v) :: rest =>
    if key < k then (key, value) :: (k, v) :: rest
    else if key = k then (key, value) :: rest
    else (k, v) :: putMember key value rest

namespace Value

mutual

/-- Every object in the value lists its keys in increasing order. -/
def InOrder : Value → Prop
  | .array items => ItemsInOrder items
  | .object members => MembersInOrder members
  | _ => True

/-- Every item is in key order. -/
def ItemsInOrder : List Value → Prop
  | [] => True
  | item :: rest => item.InOrder ∧ ItemsInOrder rest

/-- The keys increase, and every member is in key order. -/
def MembersInOrder : List (String × Value) → Prop
  | [] => True
  | (key, value) :: rest =>
    (∀ m ∈ rest, key < m.1) ∧ value.InOrder ∧ MembersInOrder rest

end

mutual

/-- The value with its objects put in key order. Of two members with one key
    the later one stays. -/
def sorted : Value → Value
  | .array items => .array (sortedItems items)
  | .object members => .object (sortedMembers members [])
  | .null => .null
  | .boolean b => .boolean b
  | .number n => .number n
  | .string s => .string s

/-- The items, each put in key order. -/
def sortedItems : List Value → List Value
  | [] => []
  | item :: rest => item.sorted :: sortedItems rest

/-- The members set one after the other on those already in order. -/
def sortedMembers : List (String × Value) → List (String × Value) → List (String × Value)
  | [], done => done
  | (key, value) :: rest, done => sortedMembers rest (putMember key value.sorted done)

end

mutual

/-- Equality of values, with numbers compared as numbers. -/
def agrees : Value → Value → Bool
  | .null, .null => true
  | .boolean a, .boolean b => a = b
  | .number m, .number n => m.agrees n
  | .string s, .string t => s = t
  | .array xs, .array ys => itemsAgree xs ys
  | .object xs, .object ys => membersAgree xs ys
  | _, _ => false

/-- Equality of items, one by one. -/
def itemsAgree : List Value → List Value → Bool
  | [], [] => true
  | x :: xs, y :: ys => x.agrees y && itemsAgree xs ys
  | _, _ => false

/-- Equality of members, one by one. -/
def membersAgree : List (String × Value) → List (String × Value) → Bool
  | [], [] => true
  | (k, x) :: xs, (l, y) :: ys => k = l && x.agrees y && membersAgree xs ys
  | _, _ => false

end

/-- What holds of the new key and of every old one holds of every key after
    a member is set. -/
theorem forall_mem_putMember {key : String} {value : α} {members : List (String × α)}
    {p : String → Prop} (new : p key) (old : ∀ m ∈ members, p m.1) :
    ∀ m ∈ putMember key value members, p m.1 := by
  induction members with
  | nil => simpa [putMember] using new
  | cons head rest ih =>
    obtain ⟨k, v⟩ := head
    simp only [List.forall_mem_cons] at old
    rw [putMember]
    split
    · exact List.forall_mem_cons.2 ⟨new, List.forall_mem_cons.2 old⟩
    · split
      · exact List.forall_mem_cons.2 ⟨new, old.2⟩
      · exact List.forall_mem_cons.2 ⟨old.1, ih old.2⟩

/-- Setting a member keeps the key order. -/
theorem membersInOrder_putMember {key : String} {value : Value}
    {members : List (String × Value)} (value_inOrder : value.InOrder)
    (inOrder : MembersInOrder members) : MembersInOrder (putMember key value members) := by
  induction members with
  | nil => simpa [putMember, MembersInOrder] using value_inOrder
  | cons head rest ih =>
    obtain ⟨k, v⟩ := head
    obtain ⟨k_least, v_inOrder, rest_inOrder⟩ := inOrder
    rw [putMember]
    split
    · next key_lt =>
      -- The new key goes in front of all the others.
      refine ⟨?_, value_inOrder, k_least, v_inOrder, rest_inOrder⟩
      exact List.forall_mem_cons.2
        ⟨key_lt, fun m mem => String.lt_trans key_lt (k_least m mem)⟩
    · next key_not_lt =>
      split
      · next key_eq =>
        subst key_eq
        exact ⟨k_least, value_inOrder, rest_inOrder⟩
      · next key_ne =>
        have k_lt : k < key :=
          Std.lt_of_le_of_ne (String.not_lt.1 key_not_lt) (Ne.symm key_ne)
        exact ⟨forall_mem_putMember k_lt k_least, v_inOrder, ih rest_inOrder⟩

/-- A member with a key past all the others goes to the end. -/
theorem putMember_eq_append {key : String} {value : α} {members : List (String × α)}
    (last : ∀ m ∈ members, m.1 < key) :
    putMember key value members = members ++ [(key, value)] := by
  induction members with
  | nil => rfl
  | cons head rest ih =>
    obtain ⟨k, v⟩ := head
    simp only [List.forall_mem_cons] at last
    have not_lt : ¬ key < k := fun lt => String.lt_irrefl _ (String.lt_trans lt last.1)
    have ne : key ≠ k := fun eq => String.lt_irrefl _ (eq ▸ last.1)
    simp [putMember, not_lt, ne, ih last.2]

mutual

/-- Sorting gives key order. -/
theorem inOrder_sorted : (value : Value) → value.sorted.InOrder
  | .array items => by
    simpa [sorted, InOrder] using itemsInOrder_sortedItems items
  | .object members => by
    simpa [sorted, InOrder] using
      membersInOrder_sortedMembers members [] (by simp [MembersInOrder])
  | .null | .boolean _ | .number _ | .string _ => by simp [sorted, InOrder]

/-- Sorting items gives key order. -/
theorem itemsInOrder_sortedItems : (items : List Value) → ItemsInOrder (sortedItems items)
  | [] => by simp [sortedItems, ItemsInOrder]
  | item :: rest => by
    simpa [sortedItems, ItemsInOrder] using
      ⟨inOrder_sorted item, itemsInOrder_sortedItems rest⟩

/-- Sorting members onto members in key order gives key order. -/
theorem membersInOrder_sortedMembers :
    (members done : List (String × Value)) → MembersInOrder done →
      MembersInOrder (sortedMembers members done)
  | [], _, inOrder => by simpa [sortedMembers] using inOrder
  | (_, value) :: rest, done, inOrder => by
    rw [sortedMembers]
    exact membersInOrder_sortedMembers rest _
      (membersInOrder_putMember (inOrder_sorted value) inOrder)

end

mutual

/-- Sorting leaves a value in key order alone. -/
theorem sorted_of_inOrder : (value : Value) → value.InOrder → value.sorted = value
  | .array items, inOrder => by
    simp [sorted, sortedItems_of_inOrder items (by simpa [InOrder] using inOrder)]
  | .object members, inOrder => by
    simp [sorted, sortedMembers_of_inOrder members [] (by simpa [InOrder] using inOrder)]
  | .null, _ | .boolean _, _ | .number _, _ | .string _, _ => by simp [sorted]

/-- Sorting leaves items in key order alone. -/
theorem sortedItems_of_inOrder :
    (items : List Value) → ItemsInOrder items → sortedItems items = items
  | [], _ => by simp [sortedItems]
  | item :: rest, inOrder => by
    obtain ⟨here, there⟩ := inOrder
    simp [sortedItems, sorted_of_inOrder item here, sortedItems_of_inOrder rest there]

/-- Members in key order are appended to smaller ones as they are. -/
theorem sortedMembers_of_inOrder :
    (members done : List (String × Value)) → MembersInOrder members →
      (∀ d ∈ done, ∀ m ∈ members, d.1 < m.1) → sortedMembers members done = done ++ members
  | [], _, _, _ => by simp [sortedMembers]
  | (key, value) :: rest, done, inOrder, smaller => by
    obtain ⟨least, here, there⟩ := inOrder
    have last : ∀ d ∈ done, d.1 < key := fun d mem => smaller d mem _ (List.mem_cons_self ..)
    rw [sortedMembers, sorted_of_inOrder value here, putMember_eq_append last,
      sortedMembers_of_inOrder rest _ there]
    · simp
    · intro d mem m mem'
      rcases List.mem_append.1 mem with old | new
      · exact smaller d old m (List.mem_cons_of_mem _ mem')
      · simp only [List.mem_singleton] at new
        subst new
        exact least m mem'

end

end Value

end Descent.Json
