import Descent.Proofs.Json.Members
import Descent.Proofs.Json.Values

/-!
# Reading Trees as Values

A tree that has a value is read as that value if there is room for its
height, and all its texts are read alike. The value of an object is told by
its members one after the other: a member replaces what an earlier one has
put under the same key, so the last one counts.

## Theorems

* `entries_congr`, `entries_swap`, `entries_shadow`: What may be done to the
  members of a map.
* `settles_value`: What is read as a value depends on the tree alone.
* `outcome_value_array`, `outcome_value_object`: Containers by their parts.
* `outcome_value`: A tree with a value is read as that value.
-/

namespace Descent.Json

/-! ## Members with one key -/

section Members

variable {α : Type}

/-- Of two members with one key the later one stays. -/
theorem putMember_same (key : String) (v w : α) (members : List (String × α)) :
    putMember key w (putMember key v members) = putMember key w members := by
  induction members with
  | nil => simp [putMember]
  | cons m rest ih =>
      rcases m with ⟨k, u⟩
      by_cases hlt : key < k
      · simp [putMember, hlt]
      · by_cases hsame : key = k
        · simp [putMember, hsame]
        · simp [putMember, hlt, hsame, ih]

/-- Members with different keys may be put in either order. -/
theorem putMember_comm (key key' : String) (hne : key ≠ key') (v w : α)
    (members : List (String × α)) :
    putMember key v (putMember key' w members) = putMember key' w (putMember key v members) := by
  induction members with
  | nil => grind [putMember]
  | cons m rest ih =>
      rcases m with ⟨k, u⟩
      grind [putMember]

end Members

namespace Reader

section Entries

variable {α : Type} (item : Reader α)

theorem entries_cons (done : List (String × α)) (m : Literal × Doc) (ms : List (Literal × Doc)) :
    entries item done (m :: ms) =
      (m.1.reading >>= (entryStep item done · m.2)) >>= fun next => entries item next ms :=
  List.foldlM_cons

theorem entries_append (done : List (String × α)) (front back : List (Literal × Doc)) :
    entries item done (front ++ back) =
      entries item done front >>= fun next => entries item next back := List.foldlM_append

variable {item}

/-- Members that are taken have a key and hold something. -/
theorem exists_of_entries_cons (done all : List (String × α)) (m : Literal × Doc)
    (ms : List (Literal × Doc)) (hall : entries item done (m :: ms) = .ok all) :
    ∃ name a, m.1.reading = .ok name ∧ m.2.outcome item = .ok a ∧
      entries item (putMember name a done) ms = .ok all := by
  rw [entries_cons] at hall
  rcases exists_of_bind_ok hall with ⟨next, hstep, hrest⟩
  rcases exists_of_bind_ok hstep with ⟨name, hname, hentry⟩
  rw [entryStep] at hentry
  cases ha : m.2.outcome item with
  | error fault =>
      rw [ha] at hentry
      cases hentry
  | ok a =>
      rw [ha] at hentry
      cases hentry
      exact ⟨name, a, hname, rfl, hrest⟩

theorem entries_cons_of_ok (done : List (String × α)) (m : Literal × Doc)
    (ms : List (Literal × Doc)) (name : String) (a : α) (hname : m.1.reading = .ok name)
    (ha : m.2.outcome item = .ok a) :
    entries item done (m :: ms) = entries item (putMember name a done) ms := by
  rw [entries_cons, hname]
  change (entryStep item done name m.2 >>= _) = _
  rw [entryStep, ha]
  rfl

/-- A member may be replaced by one that is read alike. -/
theorem entries_congr (front back : List (Literal × Doc)) (key : Literal) (d d' : Doc)
    (halike : ∀ a, d.outcome item = .ok a → d'.outcome item = .ok a)
    (done all : List (String × α))
    (hall : entries item done (front ++ (key, d) :: back) = .ok all) :
    entries item done (front ++ (key, d') :: back) = .ok all := by
  rw [entries_append] at hall ⊢
  rcases exists_of_bind_ok hall with ⟨next, hfront, hrest⟩
  rcases exists_of_entries_cons next all (key, d) back hrest with ⟨name, a, hname, ha, hback⟩
  rw [hfront]
  change entries item next ((key, d') :: back) = _
  rw [entries_cons_of_ok next (key, d') back name a hname (halike a ha)]
  exact hback

/-- Members with different keys may come in either order. -/
theorem entries_swap (front back : List (Literal × Doc)) (m m' : Literal × Doc)
    (name name' : String) (hm : m.1.reading = .ok name) (hm' : m'.1.reading = .ok name')
    (hne : name ≠ name') (done all : List (String × α))
    (hall : entries item done (front ++ m :: m' :: back) = .ok all) :
    entries item done (front ++ m' :: m :: back) = .ok all := by
  rw [entries_append] at hall ⊢
  rcases exists_of_bind_ok hall with ⟨next, hfront, hrest⟩
  rcases exists_of_entries_cons next all m _ hrest with ⟨key, a, hkey, ha, hrest⟩
  rcases exists_of_entries_cons _ all m' back hrest with ⟨key', b, hkey', hb, hback⟩
  have hname : key = name := Except.ok.inj (hkey.symm.trans hm)
  have hname' : key' = name' := Except.ok.inj (hkey'.symm.trans hm')
  rw [hfront]
  change entries item next (m' :: m :: back) = _
  rw [entries_cons_of_ok next m' _ key' b hkey' hb, entries_cons_of_ok _ m back key a hkey ha,
    putMember_comm key key' (by rwa [hname, hname'])]
  exact hback

/-- What was put under a key is forgotten when the key comes again. -/
theorem entries_putMember (back : List (Literal × Doc)) (name : String) (a : α)
    (hlater : ∃ m ∈ back, m.1.reading = .ok name) (done all : List (String × α))
    (hall : entries item done back = .ok all) :
    entries item (putMember name a done) back = .ok all := by
  induction back generalizing done with
  | nil =>
      rcases hlater with ⟨m, hm, _⟩
      cases hm
  | cons m ms ih =>
      rcases exists_of_entries_cons done all m ms hall with ⟨key, b, hkey, hb, hrest⟩
      rw [entries_cons_of_ok _ m ms key b hkey hb]
      by_cases hsame : key = name
      · rw [hsame, putMember_same]
        rwa [hsame] at hrest
      · -- The key is another one, so the one that is meant is further behind.
        rw [putMember_comm key name hsame]
        refine ih ?_ _ hrest
        rcases hlater with ⟨m', hm', hname⟩
        rcases List.mem_cons.1 hm' with rfl | hm'
        · rw [hkey] at hname
          exact absurd (Except.ok.inj hname) hsame
        · exact ⟨m', hm', hname⟩

/-- A member may come in front of a later one with the same key. -/
theorem entries_shadow (front back : List (Literal × Doc)) (key : Literal) (d : Doc)
    (name : String) (hname : key.reading = .ok name) (a : α) (ha : d.outcome item = .ok a)
    (hlater : ∃ m ∈ back, m.1.reading = .ok name) (done all : List (String × α))
    (hall : entries item done (front ++ back) = .ok all) :
    entries item done (front ++ (key, d) :: back) = .ok all := by
  rw [entries_append] at hall ⊢
  rcases exists_of_bind_ok hall with ⟨next, hfront, hback⟩
  rw [hfront]
  change entries item next ((key, d) :: back) = _
  rw [entries_cons_of_ok next (key, d) back name a hname ha]
  exact entries_putMember back name a hlater next all hback

end Entries

/-! ## Values -/

theorem skipsBlanks_valueWith (inside : Option (Reader Value)) :
    SkipsBlanks (valueWith inside) := skipsBlanks_bind _ _ skipsBlanks_start

theorem makes_valueWith_number (inside : Option (Reader Value)) (n : Numeral) :
    Makes (valueWith inside) (.number n) (n.reading.map .number) := by
  refine makes_lexeme (skipsBlanks_valueWith inside) rfl (fun rest hrest => ?_)
  rcases n.exists_start rest with ⟨c, hc, hstart⟩
  rw [valueWith_lead inside c _ hc hstart, map_apply, n.number_chars rest hrest, map_outcome]

theorem makes_valueWith_string (inside : Option (Reader Value)) (s : Literal) :
    Makes (valueWith inside) (.string s) (s.reading.map .string) := by
  refine makes_lexeme (skipsBlanks_valueWith inside) rfl (fun rest _ => ?_)
  change (Value.string <$> key) (s.chars ++ rest) = _
  rw [map_apply, s.key_chars, map_outcome]

theorem makes_valueWith_array (item : Reader Value) (hitem : Settles item) (items : List Doc) :
    Makes (valueWith (some item)) (.array items) ((items.mapM (Doc.outcome item)).map .array) := by
  refine makes_array (skipsBlanks_valueWith _) (fun row gap rest hrow hgap _ => ?_)
  rw [valueWith_bracket, map_apply, list_items item hitem items row gap rest hrow hgap,
    map_outcome]

theorem makes_valueWith_object (item : Reader Value) (hitem : Settles item)
    (members : List (Literal × Doc)) :
    Makes (valueWith (some item)) (.object members) ((entries item [] members).map .object) := by
  refine makes_object (skipsBlanks_valueWith _) (fun row gap rest hrow hgap _ => ?_)
  rw [valueWith_brace, map_apply, members_entries item hitem members row gap rest hrow hgap,
    map_outcome]

theorem settles_valueWith (inside : Option (Reader Value))
    (hinside : ∀ item, inside = some item → Settles item) : Settles (valueWith inside) := by
  refine settles_of_makes (fun d => ?_)
  have hskips := skipsBlanks_valueWith inside
  cases d with
  | null => exact ⟨.ok .null, makes_lexeme hskips rfl fun _ _ => rfl⟩
  | boolean b => cases b <;> exact ⟨.ok (.boolean _), makes_lexeme hskips rfl fun _ _ => rfl⟩
  | number n => exact ⟨_, makes_valueWith_number inside n⟩
  | string s => exact ⟨_, makes_valueWith_string inside s⟩
  | array items =>
      cases inside with
      | none => exact ⟨.error .tooDeep, makes_array hskips fun _ _ _ _ _ _ => rfl⟩
      | some item => exact ⟨_, makes_valueWith_array item (hinside item rfl) items⟩
  | object members =>
      cases inside with
      | none => exact ⟨.error .tooDeep, makes_object hskips fun _ _ _ _ _ _ => rfl⟩
      | some item => exact ⟨_, makes_valueWith_object item (hinside item rfl) members⟩

/-- What is read as a value depends on the tree alone. -/
theorem settles_value (room : Nat) : Settles (value room) := by
  induction room with
  | zero => exact settles_valueWith none nofun
  | succ room ih =>
      exact settles_valueWith (some (value room)) fun item hitem => Option.some.inj hitem ▸ ih

theorem outcome_value_array (room : Nat) (items : List Doc) :
    (Doc.array items).outcome (value (room + 1)) =
      (items.mapM (Doc.outcome (value room))).map .array :=
  (makes_valueWith_array (value room) (settles_value room) items).outcome_eq

theorem outcome_value_object (room : Nat) (members : List (Literal × Doc)) :
    (Doc.object members).outcome (value (room + 1)) =
      (entries (value room) [] members).map .object :=
  (makes_valueWith_object (value room) (settles_value room) members).outcome_eq

theorem value_eq (room : Nat) : ∃ inside, value room = valueWith inside := by
  cases room with
  | zero => exact ⟨_, rfl⟩
  | succ room => exact ⟨_, rfl⟩

/-- What is read without a fault is there. -/
theorem ok_of_toOption {α : Type} {result : Except Fault α} {a : α}
    (hresult : result.toOption = some a) : result = .ok a := by
  cases result with
  | ok b => exact congrArg _ (Option.some.inj hresult)
  | error fault => cases hresult

mutual

/-- A tree with a value is read as that value if there is room for its
    height. -/
theorem outcome_value : (d : Doc) → ∀ (v : Value) (room : Nat), d.value? = some v →
    d.height ≤ room → d.outcome (value room) = .ok v
  | .null, v, room, hv, _ => by
      rcases value_eq room with ⟨inside, hinside⟩
      cases hv
      rw [hinside]
      rfl
  | .boolean b, v, room, hv, _ => by
      rcases value_eq room with ⟨inside, hinside⟩
      cases hv
      rw [hinside]
      cases b <;> rfl
  | .number n, v, room, hv, _ => by
      rcases value_eq room with ⟨inside, hinside⟩
      rw [Doc.value?, Option.map_eq_some_iff] at hv
      rcases hv with ⟨x, hx, rfl⟩
      rw [hinside, (makes_valueWith_number inside n).outcome_eq, ok_of_toOption hx]
      rfl
  | .string s, v, room, hv, _ => by
      rcases value_eq room with ⟨inside, hinside⟩
      rw [Doc.value?, Option.map_eq_some_iff] at hv
      rcases hv with ⟨text, htext, rfl⟩
      rw [hinside, (makes_valueWith_string inside s).outcome_eq, ok_of_toOption htext]
      rfl
  | .array items, v, room, hv, hroom => by
      rw [Doc.height] at hroom
      rw [Doc.value?, Option.map_eq_some_iff] at hv
      rcases hv with ⟨values, hvalues, rfl⟩
      cases room with
      | zero => omega
      | succ room =>
          rw [outcome_value_array, outcome_items items values room hvalues (by omega)]
          rfl
  | .object members, v, room, hv, hroom => by
      rw [Doc.height] at hroom
      rw [Doc.value?, Option.map_eq_some_iff] at hv
      rcases hv with ⟨all, hall, rfl⟩
      cases room with
      | zero => omega
      | succ room =>
          rw [outcome_value_object, outcome_members members [] all room hall (by omega)]
          rfl

theorem outcome_items : (items : List Doc) → ∀ (values : List Value) (room : Nat),
    Doc.itemValues? items = some values → Doc.itemsHeight items ≤ room →
      items.mapM (Doc.outcome (value room)) = .ok values
  | [], values, room, hvalues, _ => by
      cases hvalues
      rfl
  | item :: rest, values, room, hvalues, hroom => by
      rw [Doc.itemsHeight] at hroom
      simp only [Doc.itemValues?, Option.bind_eq_bind, Option.bind_eq_some_iff] at hvalues
      rcases hvalues with ⟨first, hfirst, others, hothers, hvalues⟩
      cases hvalues
      rw [List.mapM_cons, outcome_value item first room hfirst (by omega),
        outcome_items rest others room hothers (by omega)]
      rfl

theorem outcome_members : (members : List (Literal × Doc)) →
    ∀ (done all : List (String × Value)) (room : Nat),
      Doc.memberValues? members done = some all → Doc.membersHeight members ≤ room →
        entries (value room) done members = .ok all
  | [], done, all, room, hall, _ => by
      cases hall
      rfl
  | (key, doc) :: rest, done, all, room, hall, hroom => by
      rw [Doc.membersHeight] at hroom
      simp only [Doc.memberValues?, Option.bind_eq_bind, Option.bind_eq_some_iff] at hall
      rcases hall with ⟨name, hname, v, hv, hall⟩
      have hrest := outcome_members rest _ all room hall (by omega)
      have hstep : key.reading >>= (entryStep (value room) done · doc) =
          .ok (putMember name v done) := by
        rw [ok_of_toOption hname]
        change entryStep (value room) done name doc = _
        rw [entryStep, outcome_value doc v room hv (by omega)]
        rfl
      rw [entries, List.foldlM_cons, hstep]
      exact hrest

end

end Reader

end Descent.Json
