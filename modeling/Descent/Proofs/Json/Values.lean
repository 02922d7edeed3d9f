import Descent.Proofs.Json.Containers
import Descent.Proofs.Json.Numbers

/-!
# Reading Back: Values

A value is read back from its text if there is room for its height: the
containers that are open at once while its text is read. With less room it is
refused, and always for being too deep; there is no third outcome. Room is
counted down on the way in and height is counted up on the way out, so the
two meet in a structural induction on the value, with the room of a container
one less for what is inside it.

Writing keeps the members of an object in their order, and reading puts each
member in its place. For an object in key order every place is the last one,
so the same list comes out.

## Main definitions

* `Value.height`: How many containers of a value are in each other.
* `Value.NumbersReadBack`: All numbers in a value are read back.
* `Reader.within`: A result that needs room, or the fault without it.

## Theorems

* `mapM_within`, `foldlM_within`: Parts need the room of the highest of them.
* `reads_value`: A value is read back exactly if there is room for it.
-/

namespace Descent.Json

namespace Value

mutual

/-- How many containers of a value are in each other. -/
def height : Value → Nat
  | .array items => 1 + itemsHeight items
  | .object members => 1 + membersHeight members
  | _ => 0

/-- The greatest height of items. -/
def itemsHeight : List Value → Nat
  | [] => 0
  | item :: rest => max item.height (itemsHeight rest)

/-- The greatest height of the values of members. -/
def membersHeight : List (String × Value) → Nat
  | [] => 0
  | (_, value) :: rest => max value.height (membersHeight rest)

end

mutual

/-- All numbers in a value are read back. -/
def NumbersReadBack : Value → Prop
  | .number n => n.ReadsBack
  | .array items => ItemsReadBack items
  | .object members => MembersReadBack members
  | _ => True

/-- All numbers in items are read back. -/
def ItemsReadBack : List Value → Prop
  | [] => True
  | item :: rest => item.NumbersReadBack ∧ ItemsReadBack rest

/-- All numbers in the values of members are read back. -/
def MembersReadBack : List (String × Value) → Prop
  | [] => True
  | (_, value) :: rest => value.NumbersReadBack ∧ MembersReadBack rest

end

theorem itemTexts_eq_map (items : List Value) : itemTexts items = items.map text := by
  induction items with
  | nil => rfl
  | cons item rest ih => rw [itemTexts, ih, List.map_cons]

theorem memberTexts_eq_map (members : List (String × Value)) :
    memberTexts members = members.map fun m => (m.1, m.2.text) := by
  induction members with
  | nil => rfl
  | cons m rest ih => rw [memberTexts, ih, List.map_cons]

/-- A value whose numbers are read back starts with a character of its own. -/
theorem isVisible_text (v : Value) (hv : v.NumbersReadBack) : Reader.IsVisible v.text := by
  cases v with
  | null => exact ⟨'n', _, rfl, rfl, by decide⟩
  | boolean b =>
      cases b with
      | false => exact ⟨'f', _, rfl, rfl, by decide⟩
      | true => exact ⟨'t', _, rfl, rfl, by decide⟩
  | number n =>
      rcases Reader.exists_head_of_number _ _ hv with ⟨c, more, htext, hc⟩
      refine ⟨c, more, htext, Reader.not_blank_of_lead c hc, fun hclose => ?_⟩
      rw [hclose] at hc
      cases hc
  | string s => exact Reader.isVisible_stringText s
  | array items => exact Reader.isVisible_listText _
  | object members => exact Reader.isVisible_objectText _

end Value

namespace Reader

variable {α β : Type}

/-- A result that needs room for so many containers in each other. -/
def within (depth room : Nat) (a : α) : Except Fault α :=
  if depth ≤ room then .ok a else .error .tooDeep

theorem within_of_le (depth room : Nat) (a : α) (hle : depth ≤ room) :
    within depth room a = .ok a := if_pos hle

theorem within_of_lt (depth room : Nat) (a : α) (hlt : room < depth) :
    within depth room a = .error .tooDeep := if_neg (Nat.not_le.2 hlt)

theorem within_succ (depth room : Nat) (a : α) :
    within (1 + depth) (room + 1) a = within depth room a := by
  unfold within
  by_cases hle : depth ≤ room
  · rw [if_pos hle, if_pos (by omega)]
  · rw [if_neg hle, if_neg (by omega)]

theorem map_within (f : α → β) (depth room : Nat) (a : α) :
    (within depth room a).map f = within depth room (f a) := by
  by_cases hle : depth ≤ room
  · rw [within_of_le depth room a hle, within_of_le depth room (f a) hle]
    rfl
  · rw [within_of_lt depth room a (by omega), within_of_lt depth room (f a) (by omega)]
    rfl

/-- Two results in a row need the room of the one that needs more. -/
theorem within_bind (first second room : Nat) (a : α) (b : β) (next : α → Except Fault β)
    (hnext : next a = within second room b) :
    (within first room a >>= next) = within (max first second) room b := by
  by_cases hfirst : first ≤ room
  · rw [within_of_le first room a hfirst]
    change next a = _
    rw [hnext]
    -- The first result is there, and the second one decides.
    by_cases hsecond : second ≤ room
    · rw [within_of_le second room b hsecond, within_of_le (max first second) room b (by omega)]
    · rw [within_of_lt second room b (by omega),
        within_of_lt (max first second) room b (by omega)]
  · rw [within_of_lt first room a (by omega), within_of_lt (max first second) room b (by omega)]
    rfl

/-- A last step that does not look at the text needs no room. -/
theorem Reads.bind_within {reader : Reader α} {text : String} {depth room : Nat} {a : α}
    (hreads : Reads reader text (within depth room a)) (next : α → Reader β) (b : β)
    (hnext : ∀ rest, next a rest = .ok (b, rest)) :
    Reads (reader >>= next) text (within depth room b) := by
  intro rest hrest
  have hread := hreads rest hrest
  by_cases hle : depth ≤ room
  · rw [within_of_le depth room a hle] at hread
    rw [within_of_le depth room b hle, bind_ok reader next _ rest a hread]
    exact hnext rest
  · rw [within_of_lt depth room a (by omega)] at hread
    rw [within_of_lt depth room b (by omega)]
    exact bind_error reader next _ _ hread

/-- Items need the room of the one that needs most, given as a sum that takes
    the greater of two. -/
theorem mapM_within (depth : α → Nat) (total : List α → Nat) (hnil : total [] = 0)
    (hcons : ∀ x xs, total (x :: xs) = max (depth x) (total xs)) (room : Nat) (items : List α) :
    (items.mapM fun x => within (depth x) room x) = within (total items) room items := by
  induction items with
  | nil =>
      rw [hnil]
      rfl
  | cons x xs ih =>
      rw [List.mapM_cons, ih, hcons]
      refine within_bind (depth x) _ room x (x :: xs) _ ?_
      have hrest := within_bind (total xs) 0 room xs (x :: xs) (fun more => pure (x :: more)) rfl
      rw [Nat.max_zero] at hrest
      exact hrest

/-- Members in key order are put one behind the other. -/
theorem foldlM_within (room : Nat) (all done : List (String × Value))
    (horder : Value.MembersInOrder all) (hbehind : ∀ d ∈ done, ∀ m ∈ all, d.1 < m.1) :
    all.foldlM (fun done m => (within m.2.height room m.2).map (putMember m.1 · done)) done =
      within (Value.membersHeight all) room (done ++ all) := by
  induction all generalizing done with
  | nil =>
      rw [List.append_nil]
      rfl
  | cons m rest ih =>
      rcases m with ⟨key, value⟩
      rcases horder with ⟨hleast, _, hrest⟩
      -- The next key is past all that have been put, so it goes to the end.
      have hlast : ∀ d ∈ done, d.1 < key := fun d hd =>
        hbehind d hd (key, value) List.mem_cons_self
      have hnext : ∀ d ∈ done ++ [(key, value)], ∀ m ∈ rest, d.1 < m.1 := by
        intro d hd m hm
        rcases List.mem_append.1 hd with hold | hnew
        · exact hbehind d hold m (List.mem_cons_of_mem _ hm)
        · rw [List.mem_singleton.1 hnew]
          exact hleast m hm
      have htail := ih (done ++ [(key, value)]) hrest hnext
      rw [List.append_assoc] at htail
      rw [List.foldlM_cons, map_within, Value.putMember_eq_append hlast]
      exact within_bind value.height _ room _ _ _ htail

/-! ## Values -/

theorem valueWith_quote (inside : Option (Reader Value)) (cs : List Char) :
    valueWith inside ('"' :: cs) = (Value.string <$> stringBody) cs := rfl

theorem valueWith_bracket (item : Reader Value) (cs : List Char) :
    valueWith (some item) ('[' :: cs) = (Value.array <$> list item) cs := rfl

theorem valueWith_brace (item : Reader Value) (cs : List Char) :
    valueWith (some item) ('\x7b' :: cs) = (Value.object <$> members (entry item) []) cs := rfl

/-- A number is known by its first character, which starts nothing else. -/
theorem valueWith_lead (inside : Option (Reader Value)) (c : Char) (cs : List Char)
    (hc : (c = '-' || isDigit c) = true) (hstart : start cs = .ok (c, cs)) :
    valueWith inside cs = (Value.number <$> number) cs := by
  rw [valueWith, bind_ok start _ _ _ _ hstart]
  -- The six characters that start something else are neither a sign nor a
  -- digit.
  refine congrFun ?_ cs
  split
  · cases hc
  · cases hc
  · cases hc
  · cases hc
  · cases hc
  · cases hc
  · rw [if_pos hc]
    rfl

/-- What holds no container is read whatever is to be done with containers. -/
theorem reads_valueWith (inside : Option (Reader Value)) (v : Value) (hplain : v.height = 0)
    (hv : v.NumbersReadBack) : Reads (valueWith inside) v.text (.ok v) := by
  intro rest hrest
  cases v with
  | null => rfl
  | boolean b => cases b <;> rfl
  | string s =>
      rw [Value.text, stringText_append, valueWith_quote, map_apply, stringBody_escaped]
      rfl
  | number n =>
      rcases start_number n hv rest with ⟨c, hc, hstart⟩
      rw [Value.text, valueWith_lead inside c _ hc hstart, map_apply, reads_number n hv rest hrest]
      rfl
  | array items =>
      rw [Value.height] at hplain
      omega
  | object members =>
      rw [Value.height] at hplain
      omega

theorem reads_value_of_plain (room : Nat) (v : Value) (hplain : v.height = 0)
    (hv : v.NumbersReadBack) : Reads (value room) v.text (within v.height room v) := by
  rw [hplain, within_of_le 0 room v (Nat.zero_le room)]
  cases room with
  | zero => exact reads_valueWith none v hplain hv
  | succ room => exact reads_valueWith (some (value room)) v hplain hv

mutual

/-- A value is read back exactly if there is room for it, and otherwise it is
    too deep. -/
theorem reads_value (room : Nat) (v : Value) (horder : v.InOrder) (hv : v.NumbersReadBack) :
    Reads (value room) v.text (within v.height room v) :=
  match v with
  | .null => reads_value_of_plain room .null rfl hv
  | .boolean b => reads_value_of_plain room (.boolean b) rfl hv
  | .string s => reads_value_of_plain room (.string s) rfl hv
  | .number n => reads_value_of_plain room (.number n) rfl hv
  | .array items => by
      intro rest _
      rw [Value.text, Value.itemTexts_eq_map, listText_append, Value.height]
      cases room with
      -- Without room the bracket is refused, and the items are not looked at.
      | zero =>
          rw [within_of_lt _ 0 _ (by omega)]
          rfl
      | succ room =>
          -- The bracket takes one level, and the items have the room that is
          -- left.
          have hitems := reads_items room items horder hv
          have hlist := list_commaText (value room) items Value.text
            (fun v => within v.height room v) (fun x hx => (hitems x hx).1)
            (fun x hx => (hitems x hx).2) rest
          change valueWith (some (value room)) _ = _
          rw [valueWith_bracket, map_apply, hlist,
            mapM_within Value.height Value.itemsHeight rfl (fun _ _ => rfl), within_succ,
            map_outcome, map_within]
  | .object members => by
      intro rest _
      rw [Value.text, Value.memberTexts_eq_map, objectText_append, Value.height]
      cases room with
      | zero =>
          rw [within_of_lt _ 0 _ (by omega)]
          rfl
      | succ room =>
          have hobject := entries_commaText (value room) members Value.text
            (fun v => within v.height room v) (reads_members room members horder hv) rest
          have htexts : (members.map fun m => (m.1, m.2.text)).map (fun m => memberText m.1 m.2) =
              members.map fun m => memberText m.1 m.2.text := List.map_map
          change valueWith (some (value room)) _ = _
          rw [htexts, valueWith_brace, map_apply, hobject,
            foldlM_within room members [] horder nofun, within_succ, map_outcome, map_within,
            List.nil_append]

theorem reads_items (room : Nat) (items : List Value) (horder : Value.ItemsInOrder items)
    (hitems : Value.ItemsReadBack items) :
    ∀ v ∈ items, IsVisible v.text ∧ Reads (value room) v.text (within v.height room v) :=
  match items with
  | [] => nofun
  | item :: rest => List.forall_mem_cons.2
      ⟨⟨item.isVisible_text hitems.1, reads_value room item horder.1 hitems.1⟩,
        reads_items room rest horder.2 hitems.2⟩

theorem reads_members (room : Nat) (members : List (String × Value))
    (horder : Value.MembersInOrder members) (hmembers : Value.MembersReadBack members) :
    ∀ m ∈ members, Reads (value room) m.2.text (within m.2.height room m.2) :=
  match members with
  | [] => nofun
  | m :: rest => List.forall_mem_cons.2
      ⟨reads_value room m.2 horder.2.1 hmembers.1, reads_members room rest horder.2.2 hmembers.2⟩

end

end Reader

end Descent.Json
