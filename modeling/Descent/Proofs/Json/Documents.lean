import Descent.Json.Container
import Descent.Proofs.Json.Literals
import Descent.Proofs.Json.Numerals

/-!
# Reading Trees

A text is spelled by a tree with blanks between its lexemes. What a reader
makes of it depends on the tree alone: readers skip blanks wherever the
grammar has them, and a reader that is done with a tree stops at its last
character. `Makes` states this of one reader and one tree, with the outcome,
be it a result or a fault, and `Settles` of one reader and all trees.

The trees here are arbitrary. A reader of a certain kind of data is mostly
given something else, and then it has a look at what it was given to say so.
That look may end in a fault of its own, such as a number out of range, which
is why even a refusal is a matter of the tree.

## Main definitions

* `Reader.Makes`: What is made of every text of a tree.
* `Doc.outcome`: What is made of the compact text of a tree.
* `Reader.Settles`: A reader makes the same of all texts of a tree.
* `Doc.LedBy`: The characters that a tree may start with.

## Theorems

* `Makes.parse`: A whole text that is spelled by a tree.
* `makes_refused`: A tree of the wrong kind is refused.
* `settles_string`, `settles_count`: Data without parts.
* `makes_listOf`, `makes_mapOf`: Lists and maps are made of their parts.
-/

namespace Descent.Json

open Reader

variable {α β δ : Type}

namespace Reader

/-- What a reader makes of a tree, however it is spaced and whatever
    follows. -/
def Makes (reader : Reader α) (d : Doc) (outcome : Except Fault α) : Prop :=
  ∀ cs rest, Spaced d.lexemes cs → IsEnded rest → reader (cs ++ rest) = outcome.map (·, rest)

end Reader

/-- What a reader makes of the compact text of a tree. -/
def Doc.outcome (reader : Reader α) (d : Doc) : Except Fault α :=
  (reader d.lexemes.flatten).map (·.1)

namespace Reader

/-- A reader makes the same of all texts of a tree. -/
def Settles (reader : Reader α) : Prop := ∀ d : Doc, Makes reader d (d.outcome reader)

theorem Makes.outcome_eq {reader : Reader α} {d : Doc} {outcome : Except Fault α}
    (hmakes : Makes reader d outcome) : d.outcome reader = outcome := by
  have hread := hmakes _ [] (spaced_flatten d.lexemes) isEnded_nil
  rw [List.append_nil] at hread
  rw [Doc.outcome, hread]
  cases outcome with
  | ok a => rfl
  | error fault => rfl

theorem settles_of_makes {reader : Reader α} (hmakes : ∀ d, ∃ outcome, Makes reader d outcome) :
    Settles reader := by
  intro d
  rcases hmakes d with ⟨outcome, hd⟩
  rwa [hd.outcome_eq]

theorem Makes.map {reader : Reader α} {d : Doc} {outcome : Except Fault α} (f : α → β)
    (hmakes : Makes reader d outcome) : Makes (f <$> reader) d (outcome.map f) := by
  intro cs rest hcs hrest
  rw [map_apply, hmakes cs rest hcs hrest, map_outcome]

theorem settles_map (f : α → β) {reader : Reader α} (hreader : Settles reader) :
    Settles (f <$> reader) := settles_of_makes fun d => ⟨_, (hreader d).map f⟩

/-- A last step that does not look at the text. -/
theorem Makes.bind {reader : Reader α} {d : Doc} {outcome : Except Fault α}
    (hmakes : Makes reader d outcome) (next : α → Reader β) (finish : α → Except Fault β)
    (hnext : ∀ a rest, next a rest = (finish a).map (·, rest)) :
    Makes (reader >>= next) d (outcome >>= finish) := by
  intro cs rest hcs hrest
  rw [bind_apply, hmakes cs rest hcs hrest]
  cases outcome with
  | ok a => exact hnext a rest
  | error fault => rfl

/-- A whole text is spelled by a tree: the blanks at its end are skipped. -/
theorem Makes.parse {reader : Reader α} {d : Doc} {outcome : Except Fault α}
    (hmakes : Makes reader d outcome) (text : String) (htext : d.IsSpelled text) :
    reader.parse text = outcome := by
  rcases htext with ⟨cs, gap, htext, hcs, hgap⟩
  have hrest : IsEnded gap := by
    have hended := isEnded_gap gap [] hgap isEnded_nil
    rwa [List.append_nil] at hended
  have hblank : gap.dropWhile isBlank = [] := by
    rw [← List.append_nil gap, List.dropWhile_append_of_pos hgap, List.dropWhile_nil]
  have hread := hmakes cs gap hcs hrest
  unfold Reader.parse
  rw [htext, hread]
  cases outcome with
  | error fault => rfl
  | ok a =>
      change (if (gap.dropWhile isBlank).isEmpty then _ else _) = _
      rw [hblank]
      rfl

end Reader

/-! ## The first character -/

namespace Doc

/-- The characters that a tree may start with. -/
def LedBy : Doc → Char → Prop
  | .null, c => c = 'n'
  | .boolean true, c => c = 't'
  | .boolean false, c => c = 'f'
  | .number _, c => (c = '-' || isDigit c) = true
  | .string _, c => c = '"'
  | .array _, c => c = '['
  | .object _, c => c = '\x7b'

/-- A tree does not start with what may follow one. -/
theorem not_ending_of_ledBy (d : Doc) (c : Char) (hc : d.LedBy c) : c ∉ endings := by
  cases d with
  | null => exact hc ▸ by decide
  | boolean b => cases b <;> exact hc ▸ by decide
  | number n =>
      have hlead : endings.all (fun c => !(c = '-' || isDigit c)) = true := rfl
      intro hmem
      have hnot := List.all_eq_true.1 hlead c hmem
      rw [show (c = '-' || isDigit c) = true from hc] at hnot
      cases hnot
  | string s => exact hc ▸ by decide
  | array items => exact hc ▸ by decide
  | object members => exact hc ▸ by decide

theorem not_blank_of_ledBy (d : Doc) (c : Char) (hc : d.LedBy c) : isBlank c = false :=
  Bool.eq_false_iff.2 fun hblank =>
    d.not_ending_of_ledBy c hc (mem_endings_of_isBlank c hblank)

theorem ne_bracket_of_ledBy (d : Doc) (c : Char) (hc : d.LedBy c) : c ≠ ']' := by
  rintro rfl
  exact d.not_ending_of_ledBy _ hc (by simp [endings])

theorem ne_comma_of_ledBy (d : Doc) (c : Char) (hc : d.LedBy c) : c ≠ ',' := by
  rintro rfl
  exact d.not_ending_of_ledBy _ hc (by simp [endings])

theorem exists_lead (d : Doc) : ∃ c word rest, d.lexemes = (c :: word) :: rest ∧ d.LedBy c := by
  cases d with
  | null => exact ⟨_, _, _, rfl, rfl⟩
  | boolean b => cases b <;> exact ⟨_, _, _, rfl, rfl⟩
  | number n =>
      rcases n.exists_head with ⟨c, more, hchars, hc⟩
      exact ⟨c, more, [], by rw [lexemes, hchars], hc⟩
  | string s => exact ⟨_, _, _, by rw [lexemes, Literal.chars], rfl⟩
  | array items => exact ⟨_, _, _, by rw [lexemes], rfl⟩
  | object members => exact ⟨_, _, _, by rw [lexemes], rfl⟩

/-- Behind some blanks a tree shows its first character. -/
theorem exists_visible (d : Doc) (cs : List Char) (hcs : Spaced d.lexemes cs) :
    ∃ gap c more, cs = gap ++ c :: more ∧ IsGap gap ∧ d.LedBy c ∧
      Spaced d.lexemes (c :: more) := by
  rcases d.exists_lead with ⟨c, word, rest, hlexemes, hc⟩
  rw [hlexemes] at hcs ⊢
  rcases spaced_cons.1 hcs with ⟨gap, more, hgap, hmore, rfl⟩
  exact ⟨gap, c, word ++ more, rfl, hgap, hc, .cons isGap_nil hmore⟩

end Doc

namespace Reader

/-! ## Trees by their form -/

/-- A tree of one lexeme. -/
theorem makes_lexeme {reader : Reader α} (hskips : SkipsBlanks reader) {d : Doc}
    {lexeme : List Char} {outcome : Except Fault α} (hd : d.lexemes = [lexeme])
    (hread : ∀ rest, IsEnded rest → reader (lexeme ++ rest) = outcome.map (·, rest)) :
    Makes reader d outcome := by
  intro cs rest hcs hrest
  rw [hd] at hcs
  rcases spaced_singleton.1 hcs with ⟨gap, hgap, rfl⟩
  rw [List.append_assoc, hskips gap _ hgap]
  exact hread rest hrest

/-- A list in its brackets. -/
theorem makes_array {reader : Reader α} (hskips : SkipsBlanks reader) {items : List Doc}
    {outcome : Except Fault α}
    (hread : ∀ row gap rest, Row (fun item cs => Spaced (Doc.lexemes item) cs) true items row →
      IsGap gap → IsEnded rest →
      reader ('[' :: (row ++ (gap ++ ']' :: rest))) = outcome.map (·, rest)) :
    Makes reader (.array items) outcome := by
  intro cs rest hcs hrest
  rcases Doc.spaced_array hcs with ⟨gap, row, closing, rfl, hgap, hrow, hclosing⟩
  have hcontent := hread row closing rest hrow hclosing hrest
  simp only [List.append_assoc, List.cons_append, List.nil_append]
  rw [hskips gap _ hgap]
  exact hcontent

/-- An object in its braces. -/
theorem makes_object {reader : Reader α} (hskips : SkipsBlanks reader)
    {members : List (Literal × Doc)} {outcome : Except Fault α}
    (hread : ∀ row gap rest, Row (fun m cs => Spaced (Doc.lexemesOf m) cs) true members row →
      IsGap gap → IsEnded rest →
      reader ('\x7b' :: (row ++ (gap ++ '\x7d' :: rest))) = outcome.map (·, rest)) :
    Makes reader (.object members) outcome := by
  intro cs rest hcs hrest
  rcases Doc.spaced_object hcs with ⟨gap, row, closing, rfl, hgap, hrow, hclosing⟩
  have hcontent := hread row closing rest hrow hclosing hrest
  simp only [List.append_assoc, List.cons_append, List.nil_append]
  rw [hskips gap _ hgap]
  exact hcontent

/-- A tree as an item of a list. -/
theorem readsItem_of_makes {item : Reader α} {d : Doc} {outcome : Except Fault α}
    (hmakes : Makes item d outcome) (cs : List Char) (hcs : Spaced d.lexemes cs) :
    ReadsItem item cs outcome := by
  rcases d.exists_visible cs hcs with ⟨gap, c, more, hsplit, hgap, hc, hvisible⟩
  exact ⟨gap, c, more, hsplit, hgap, d.not_blank_of_ledBy c hc, d.ne_bracket_of_ledBy c hc,
    fun rest hrest => hmakes (c :: more) rest hvisible hrest⟩

/-! ## Refusals -/

end Reader

namespace Doc

/-- What a tree is, for a message about it. Of a container only the bracket is
    looked at. -/
def found : Doc → Except Fault Found
  | .null => .ok .null
  | .boolean b => .ok (.boolean b)
  | .number n => n.reading.map .number
  | .string s => s.reading.map .string
  | .array _ => .ok .sequence
  | .object _ => .ok .map

end Doc

namespace Reader

/-- The fault of something that is not what is wanted. A fault of its own
    comes first. -/
def refusal (wanted : String) : Except Fault Found → Fault
  | .ok found => .wrongType found wanted
  | .error fault => fault

theorem refuse_of_found (c : Char) (wanted : String) (cs rest : List Char)
    (outcome : Except Fault Found) (hfound : found c cs = outcome.map (·, rest)) :
    (refuse c wanted : Reader α) cs = .error (refusal wanted outcome) := by
  rw [refuse, bind_apply, hfound]
  cases outcome with
  | ok found => rfl
  | error fault => rfl

theorem found_quote (s : Literal) (rest : List Char) :
    found '"' (s.chars ++ rest) = (s.reading.map Found.string).map (·, rest) := by
  have hmap : found '"' (s.chars ++ rest) = (Found.string <$> key) (s.chars ++ rest) := rfl
  rw [hmap, map_apply, s.key_chars, map_outcome]

/-- A number is known by its first character, which starts nothing else. -/
theorem found_lead (c : Char) (hc : (c = '-' || isDigit c) = true) (cs : List Char) :
    found c cs = (Found.number <$> number) cs := by
  refine congrFun ?_ cs
  unfold found
  split
  · cases hc
  · cases hc
  · cases hc
  · cases hc
  · cases hc
  · cases hc
  · rw [if_pos hc]
    rfl

/-- A tree of the wrong kind is refused by a reader that looks at the first
    character. -/
theorem makes_refused (d : Doc) (body : Char → Reader α) (wanted : String)
    (hbody : ∀ c, d.LedBy c → body c = refuse c wanted) :
    Makes (start >>= body) d (.error (refusal wanted d.found)) := by
  have hskips : SkipsBlanks (start >>= body) := skipsBlanks_bind start body skipsBlanks_start
  have hrefuse : ∀ c cs, d.LedBy c → (start >>= body) (c :: cs) = refuse c wanted (c :: cs) := by
    intro c cs hc
    rw [bind_ok start body _ _ _ (start_cons c cs (d.not_blank_of_ledBy c hc)), hbody c hc]
  cases d with
  | null => exact makes_lexeme hskips rfl fun rest _ => hrefuse 'n' _ rfl
  | boolean b =>
      cases b with
      | true => exact makes_lexeme hskips rfl fun rest _ => hrefuse 't' _ rfl
      | false => exact makes_lexeme hskips rfl fun rest _ => hrefuse 'f' _ rfl
  | string s =>
      refine makes_lexeme hskips rfl (fun rest _ => ?_)
      exact (hrefuse '"' _ rfl).trans (refuse_of_found '"' wanted _ rest _ (found_quote s rest))
  | number n =>
      refine makes_lexeme hskips rfl (fun rest hrest => ?_)
      rcases n.exists_head with ⟨c, more, hchars, hc⟩
      have hfound : found c (n.chars ++ rest) = (n.reading.map Found.number).map (·, rest) := by
        rw [found_lead c hc, map_apply, n.number_chars rest hrest, map_outcome]
      rw [hchars] at hfound ⊢
      exact (hrefuse c _ hc).trans (refuse_of_found c wanted _ rest _ hfound)
  | array items => exact makes_array hskips fun row gap rest _ _ _ => hrefuse '[' _ rfl
  | object members => exact makes_object hskips fun row gap rest _ _ _ => hrefuse '\x7b' _ rfl

end Reader

/-! ## Data without parts -/

namespace Doc

theorem exists_of_ledBy_quote (d : Doc) (hd : d.LedBy '"') : ∃ s, d = .string s := by
  cases d with
  | string s => exact ⟨s, rfl⟩
  | boolean b => cases b <;> cases hd
  | _ => cases hd

theorem exists_of_ledBy_bracket (d : Doc) (hd : d.LedBy '[') : ∃ items, d = .array items := by
  cases d with
  | array items => exact ⟨items, rfl⟩
  | boolean b => cases b <;> cases hd
  | _ => cases hd

theorem exists_of_ledBy_brace (d : Doc) (hd : d.LedBy '\x7b') :
    ∃ members, d = .object members := by
  cases d with
  | object members => exact ⟨members, rfl⟩
  | boolean b => cases b <;> cases hd
  | _ => cases hd

theorem eq_of_ledBy_n (d : Doc) (hd : d.LedBy 'n') : d = .null := by
  cases d with
  | null => rfl
  | boolean b => cases b <;> cases hd
  | _ => cases hd

theorem exists_of_ledBy_number (d : Doc) (c : Char) (hc : (c = '-' || isDigit c) = true)
    (hd : d.LedBy c) : ∃ n, d = .number n := by
  cases d with
  | number n => exact ⟨n, rfl⟩
  | boolean b => cases b <;> cases hd <;> cases hc
  | _ =>
      cases hd
      cases hc

end Doc

namespace Reader

theorem skipsBlanks_string : SkipsBlanks string := skipsBlanks_bind _ _ skipsBlanks_start

theorem settles_string : Settles string := by
  refine settles_of_makes (fun d => ?_)
  by_cases hstring : ∃ s, d = .string s
  · rcases hstring with ⟨s, rfl⟩
    exact ⟨s.reading, makes_lexeme skipsBlanks_string rfl fun rest _ => s.key_chars rest⟩
  · refine ⟨_, makes_refused d _ "a string" (fun c hc => ?_)⟩
    split
    · exact absurd (d.exists_of_ledBy_quote hc) hstring
    · rfl

theorem makes_string?_null : Makes string? .null (.ok none) :=
  makes_lexeme (skipsBlanks_bind _ _ skipsBlanks_next?) rfl fun _ _ => rfl

theorem settles_string? : Settles string? := by
  refine settles_of_makes (fun d => ?_)
  by_cases hnull : d = .null
  · exact ⟨_, hnull ▸ makes_string?_null⟩
  · refine ⟨(d.outcome string).map some, fun cs rest hcs hrest => ?_⟩
    rcases d.exists_visible cs hcs with ⟨gap, c, more, rfl, hgap, hc, hvisible⟩
    have hsome := ((settles_string d).map some) (c :: more) rest hvisible hrest
    have hskips : SkipsBlanks string? := skipsBlanks_bind _ _ skipsBlanks_next?
    rw [List.append_assoc, hskips gap _ hgap, ← hsome, List.cons_append, string?,
      bind_ok next? _ _ _ _ (next?_cons c _ (d.not_blank_of_ledBy c hc))]
    refine congrFun ?_ _
    split
    · next hn => exact absurd (d.eq_of_ledBy_n (Option.some.inj hn ▸ hc)) hnull
    · rfl

theorem settles_unit : Settles unit := by
  refine settles_of_makes (fun d => ?_)
  by_cases hnull : d = .null
  · rw [hnull]
    exact ⟨.ok (), makes_lexeme (skipsBlanks_bind _ _ skipsBlanks_start) rfl fun _ _ => rfl⟩
  · refine ⟨_, makes_refused d _ "unit" (fun c hc => ?_)⟩
    split
    · exact absurd (d.eq_of_ledBy_n hc) hnull
    · rfl

/-- A number as a natural number of 64 bits. -/
def countOf : Number → Except Fault UInt64
  | .integer n _ => if n < 0 then .error (.negative n "usize") else .ok (UInt64.ofNat n.toNat)
  | .real x => .error (.wrongType (.number (.real x)) "usize")

theorem settles_count : Settles count := by
  refine settles_of_makes (fun d => ?_)
  by_cases hnumber : ∃ n, d = .number n
  · rcases hnumber with ⟨n, rfl⟩
    refine ⟨n.reading >>= countOf, makes_lexeme (skipsBlanks_bind _ _ skipsBlanks_start) rfl
      (fun rest hrest => ?_)⟩
    rcases n.exists_start rest with ⟨c, hc, hstart⟩
    have hread := n.number_chars rest hrest
    rw [bind_ok start _ _ _ _ hstart, if_pos hc, bind_apply, hread]
    -- What is made of the number does not look at the text.
    cases n.reading with
    | error fault => rfl
    | ok x =>
        cases x with
        | real x => rfl
        | integer n fits =>
            change (if n < 0 then _ else _ : Reader UInt64) rest =
              (if n < 0 then _ else _ : Except Fault UInt64).map (·, rest)
            by_cases hsign : n < 0
            · rw [if_pos hsign, if_pos hsign]
              rfl
            · rw [if_neg hsign, if_neg hsign]
              rfl
  · refine ⟨_, makes_refused d _ "usize" (fun c hc => ?_)⟩
    split
    · next hlead => exact absurd (d.exists_of_ledBy_number c hlead hc) hnumber
    · rfl

/-! ## Lists -/

theorem skipsBlanks_listOf (inside : Option (Reader α)) : SkipsBlanks (listOf inside) :=
  skipsBlanks_bind _ _ skipsBlanks_start

/-- The inside of a list is read tree by tree, up to the first fault. -/
theorem list_items (item : Reader α) (hitem : Settles item) (items : List Doc)
    (row gap rest : List Char)
    (hrow : Row (fun item cs => Spaced (Doc.lexemes item) cs) true items row) (hgap : IsGap gap) :
    list item (row ++ (gap ++ ']' :: rest)) =
      (items.mapM (Doc.outcome item)).map (·, rest) :=
  list_row item _ _ items row gap rest hrow hgap fun d _ cs hcs =>
    readsItem_of_makes (hitem d) cs hcs

theorem makes_listOf (item : Reader α) (hitem : Settles item) (items : List Doc) :
    Makes (listOf (some item)) (.array items) (items.mapM (Doc.outcome item)) :=
  makes_array (skipsBlanks_listOf _) fun row gap rest hrow hgap _ =>
    list_items item hitem items row gap rest hrow hgap

theorem settles_listOf (inside : Option (Reader α))
    (hinside : ∀ item, inside = some item → Settles item) : Settles (listOf inside) := by
  refine settles_of_makes (fun d => ?_)
  by_cases harray : ∃ items, d = .array items
  · rcases harray with ⟨items, rfl⟩
    cases inside with
    | none =>
        exact ⟨.error .tooDeep, makes_array (skipsBlanks_listOf _) fun _ _ _ _ _ _ => rfl⟩
    | some item => exact ⟨_, makes_listOf item (hinside item rfl) items⟩
  · refine ⟨_, makes_refused d _ "a sequence" (fun c hc => ?_)⟩
    split
    · exact absurd (d.exists_of_ledBy_bracket hc) harray
    · rfl

/-! ## Objects -/

/-- What is made of a member behind its key. -/
def MakesBehind (reader : Reader α) (d : Doc) (outcome : Except Fault α) : Prop :=
  ∀ cs rest, Spaced ([':'] :: d.lexemes) cs → IsEnded rest →
    reader (cs ++ rest) = outcome.map (·, rest)

theorem skipsBlanks_colon : SkipsBlanks colon := skipsBlanks_bind _ _ skipsBlanks_next?

theorem makesBehind_colon {reader : Reader α} {d : Doc} {outcome : Except Fault α}
    (hmakes : Makes reader d outcome) : MakesBehind (colon >>= fun _ => reader) d outcome := by
  intro cs rest hcs hrest
  rcases spaced_cons.1 hcs with ⟨gap, more, hgap, hmore, rfl⟩
  rw [List.append_assoc, List.append_assoc, List.singleton_append,
    skipsBlanks_bind _ _ skipsBlanks_colon gap _ hgap, bind_ok colon _ _ _ _ (colon_cons _)]
  exact hmakes more rest hmore hrest

/-- A member is read by its key and what is behind it. -/
theorem readsMember_of_makes (member : δ → String → Reader δ) (m : Literal × Doc)
    (step : δ → String → Except Fault δ)
    (hstep : ∀ done name, MakesBehind (member done name) m.2 (step done name)) (cs : List Char)
    (hcs : Spaced (Doc.lexemesOf m) cs) :
    ReadsMember member cs fun done => m.1.reading >>= step done := by
  rcases spaced_cons.1 hcs with ⟨gap, behind, hgap, hbehind, rfl⟩
  refine ⟨gap, m.1.inside ++ '"' :: behind, by simp [Literal.chars], hgap,
    fun done rest hrest => ?_⟩
  have hkey : key ('"' :: (m.1.inside ++ '"' :: behind ++ rest)) =
      m.1.reading.map (·, behind ++ rest) := by
    have hchars := m.1.key_chars (behind ++ rest)
    simpa [Literal.chars] using hchars
  rw [bind_apply, hkey]
  cases m.1.reading with
  | error fault => rfl
  | ok name => exact hstep done name behind rest hbehind hrest

/-- The inside of an object is read member by member, up to the first
    fault. -/
theorem members_docs (member : δ → String → Reader δ) (step : δ → String → Doc → Except Fault δ)
    (all : List (Literal × Doc))
    (hstep : ∀ m ∈ all, ∀ done name, MakesBehind (member done name) m.2 (step done name m.2))
    (blank : δ) (row gap rest : List Char)
    (hrow : Row (fun m cs => Spaced (Doc.lexemesOf m) cs) true all row) (hgap : IsGap gap) :
    members member blank (row ++ (gap ++ '\x7d' :: rest)) =
      (all.foldlM (fun done m => m.1.reading >>= (step done · m.2)) blank).map (·, rest) :=
  members_row member _ _ all row gap rest hrow hgap
    (fun m hm cs hcs => readsMember_of_makes member m (step · · m.2) (hstep m hm) cs hcs) blank

/-- A member that is put under its key. -/
def entryStep (item : Reader α) (done : List (String × α)) (name : String) (d : Doc) :
    Except Fault (List (String × α)) :=
  (d.outcome item).map (putMember name · done)

theorem makesBehind_entry (item : Reader α) (hitem : Settles item) (done : List (String × α))
    (name : String) (d : Doc) :
    MakesBehind (entry item done name) d (entryStep item done name d) :=
  makesBehind_colon ((hitem d).map (putMember name · done))

/-- The members of a map, put one after the other under their keys. -/
def entries (item : Reader α) (done : List (String × α)) (members : List (Literal × Doc)) :
    Except Fault (List (String × α)) :=
  members.foldlM (fun done m => m.1.reading >>= (entryStep item done · m.2)) done

theorem members_entries (item : Reader α) (hitem : Settles item) (all : List (Literal × Doc))
    (row gap rest : List Char)
    (hrow : Row (fun m cs => Spaced (Doc.lexemesOf m) cs) true all row) (hgap : IsGap gap) :
    members (entry item) [] (row ++ (gap ++ '\x7d' :: rest)) =
      (entries item [] all).map (·, rest) :=
  members_docs (entry item) (entryStep item) all
    (fun m _ done name => makesBehind_entry item hitem done name m.2) [] row gap rest hrow hgap

theorem skipsBlanks_mapOf (inside : Option (Reader α)) : SkipsBlanks (mapOf inside) :=
  skipsBlanks_bind _ _ skipsBlanks_start

theorem makes_mapOf (item : Reader α) (hitem : Settles item) (members : List (Literal × Doc)) :
    Makes (mapOf (some item)) (.object members) (entries item [] members) :=
  makes_object (skipsBlanks_mapOf _) fun row gap rest hrow hgap _ =>
    members_entries item hitem members row gap rest hrow hgap

theorem settles_mapOf (inside : Option (Reader α))
    (hinside : ∀ item, inside = some item → Settles item) : Settles (mapOf inside) := by
  refine settles_of_makes (fun d => ?_)
  by_cases hobject : ∃ members, d = .object members
  · rcases hobject with ⟨members, rfl⟩
    cases inside with
    | none =>
        exact ⟨.error .tooDeep, makes_object (skipsBlanks_mapOf _) fun _ _ _ _ _ _ => rfl⟩
    | some item => exact ⟨_, makes_mapOf item (hinside item rfl) members⟩
  · refine ⟨_, makes_refused d _ "a map" (fun c hc => ?_)⟩
    split
    · exact absurd (d.exists_of_ledBy_brace hc) hobject
    · rfl

end Reader

end Descent.Json
