import Descent.Proofs.Json.Documents

/-!
# Skipping Trees

A member that is no field is skipped, whatever it holds: numbers that are out
of range, strings with halves of pairs and containers inside each other at
will are all the same to the skipper, which looks at the form alone. So every
tree is skipped, and exactly its text.

The skipper has its own loops, which take an item first and look for a comma
behind it. Its recursion runs on the characters that are left, and there are
more of them than the tree is high.

## Theorems

* `skipItems_row`, `skipMembers_row`: The rest of a container is skipped.
* `makes_skipWithin`: A tree is skipped with depth enough.
* `makes_skipValue`: Every tree is skipped.
-/

namespace Descent.Json

open Reader

namespace Reader

theorem skipsBlanks_skipWith (item : Reader Unit) : SkipsBlanks (skipWith item) :=
  skipsBlanks_bind _ _ skipsBlanks_start

/-- The rest of a list behind an item. -/
def skipBehindItem (item : Reader Unit) (fuel : List Char) : Reader Unit := do
  match ← next? with
  | some ',' => do
    advance
    skipItems item fuel
  | some ']' => advance
  | some _ => throw .commaOrBracketExpected
  | none => throw .listCutOff

theorem skipItems_head (item : Reader Unit) (x : Doc) (cs rest : List Char)
    (hcs : Spaced x.lexemes cs) (hrest : IsEnded rest) (hitem : Makes item x (.ok ()))
    (c : Char) (fuel : List Char) :
    skipItems item (c :: fuel) (cs ++ rest) = skipBehindItem item fuel rest :=
  bind_ok item _ _ _ () (hitem cs rest hcs hrest)

/-- The rest of a list is skipped from an item on. The induction is on the
    items behind it. -/
theorem skipItems_row (item : Reader Unit) (xs : List Doc) (more gap rest : List Char)
    (hmore : Row (fun item cs => Spaced (Doc.lexemes item) cs) false xs more) (hgap : IsGap gap)
    (x : Doc) (cs : List Char) (hcs : Spaced x.lexemes cs)
    (hitem : ∀ y ∈ x :: xs, Makes item y (.ok ()))
    (fuel : List Char) (hfuel : xs.length < fuel.length) :
    skipItems item fuel (cs ++ (more ++ (gap ++ ']' :: rest))) = .ok ((), rest) := by
  have hskips : ∀ fuel, SkipsBlanks (skipBehindItem item fuel) := fun fuel =>
    skipsBlanks_bind _ _ skipsBlanks_next?
  have hended := hmore.isEnded _ (isEnded_gap gap _ hgap (isEnded_bracket rest))
  induction xs generalizing more x cs fuel with
  | nil =>
      cases fuel with
      | nil => cases hfuel
      | cons c fuel =>
          rw [skipItems_head item x cs _ hcs hended (hitem x List.mem_cons_self)]
          cases hmore
          rw [List.nil_append, hskips fuel gap _ hgap]
          rfl
  | cons y ys ih =>
      cases fuel with
      | nil => cases hfuel
      | cons c fuel =>
          rw [skipItems_head item x cs _ hcs hended (hitem x List.mem_cons_self)]
          rw [List.forall_mem_cons] at hitem
          -- Behind the item there is a comma, and the next item behind that.
          cases hmore with
          | cons hlead hy hys =>
              rcases hlead with ⟨front, hfront, rfl⟩
              have hnext := hys.isEnded _ (isEnded_gap gap _ hgap (isEnded_bracket rest))
              have htail := ih _ hys y _ hy hitem.2 fuel (Nat.lt_of_succ_lt_succ hfuel) hnext
              simp only [List.append_assoc] at htail ⊢
              rw [hskips fuel front _ hfront]
              exact htail

/-- The rest of an object behind a member. -/
def skipBehindMember (item : Reader Unit) (fuel : List Char) : Reader Unit := do
  match ← next? with
  | some ',' => do
    advance
    skipMembers item fuel
  | some '\x7d' => advance
  | some _ => throw .commaOrBraceExpected
  | none => throw .objectCutOff

theorem skipMembers_head (item : Reader Unit) (m : Literal × Doc) (cs rest : List Char)
    (hcs : Spaced (Doc.lexemesOf m) cs) (hrest : IsEnded rest) (hitem : Makes item m.2 (.ok ()))
    (c : Char) (fuel : List Char) :
    skipMembers item (c :: fuel) (cs ++ rest) = skipBehindMember item fuel rest := by
  rcases spaced_cons.1 hcs with ⟨gap, behind, hgap, hbehind, rfl⟩
  rcases spaced_cons.1 hbehind with ⟨front, value, hfront, hvalue, rfl⟩
  have hskips : SkipsBlanks (skipMembers item (c :: fuel)) :=
    skipsBlanks_bind _ _ skipsBlanks_next?
  have hkey := Literal.skipString_inside (front ++ ':' :: (value ++ rest)) m.1
  simp only [Literal.chars, List.append_assoc, List.cons_append, List.nil_append]
  rw [hskips gap _ hgap]
  -- The quote has been seen, and the parts of the member come one by one.
  change (skipString >>= fun _ => colon >>= fun _ => item >>= fun _ =>
    skipBehindMember item fuel) (m.1.inside ++ '"' :: (front ++ ':' :: (value ++ rest))) = _
  rw [bind_ok skipString _ _ _ () hkey, skipsBlanks_bind _ _ skipsBlanks_colon front _ hfront,
    bind_ok colon _ _ _ () (colon_cons _)]
  exact bind_ok item _ _ _ () (hitem value rest hvalue hrest)

/-- The rest of an object is skipped from a key on. The induction is on the
    members behind it. -/
theorem skipMembers_row (item : Reader Unit) (ms : List (Literal × Doc))
    (more gap rest : List Char)
    (hmore : Row (fun m cs => Spaced (Doc.lexemesOf m) cs) false ms more) (hgap : IsGap gap)
    (m : Literal × Doc) (cs : List Char) (hcs : Spaced (Doc.lexemesOf m) cs)
    (hitem : ∀ m' ∈ m :: ms, Makes item m'.2 (.ok ()))
    (fuel : List Char) (hfuel : ms.length < fuel.length) :
    skipMembers item fuel (cs ++ (more ++ (gap ++ '\x7d' :: rest))) = .ok ((), rest) := by
  have hskips : ∀ fuel, SkipsBlanks (skipBehindMember item fuel) := fun fuel =>
    skipsBlanks_bind _ _ skipsBlanks_next?
  induction ms generalizing more m cs fuel with
  | nil =>
      cases fuel with
      | nil => cases hfuel
      | cons c fuel =>
          have hended := hmore.isEnded _ (isEnded_gap gap _ hgap (isEnded_brace rest))
          rw [skipMembers_head item m cs _ hcs hended (hitem m List.mem_cons_self)]
          cases hmore
          rw [List.nil_append, hskips fuel gap _ hgap]
          rfl
  | cons m' ms ih =>
      cases fuel with
      | nil => cases hfuel
      | cons c fuel =>
          have hended := hmore.isEnded _ (isEnded_gap gap _ hgap (isEnded_brace rest))
          rw [skipMembers_head item m cs _ hcs hended (hitem m List.mem_cons_self)]
          rw [List.forall_mem_cons] at hitem
          cases hmore with
          | cons hlead hm' hms =>
              rcases hlead with ⟨front, hfront, rfl⟩
              have htail := ih _ hms m' _ hm' hitem.2 fuel (Nat.lt_of_succ_lt_succ hfuel)
              simp only [List.append_assoc] at htail ⊢
              rw [hskips fuel front _ hfront]
              exact htail

/-! ## Trees -/

/-- The inside of a list that is skipped. -/
def skipList (item : Reader Unit) : Reader Unit := do
  match ← next? with
  | some ']' => advance
  | some _ => skipItems item (← fuel)
  | none => throw .listCutOff

theorem makes_skipWith_array (item : Reader Unit) (items : List Doc)
    (hitem : ∀ d ∈ items, Makes item d (.ok ())) :
    Makes (skipWith item) (.array items) (.ok ()) := by
  have hskips : SkipsBlanks (skipList item) := skipsBlanks_bind _ _ skipsBlanks_next?
  refine makes_array (skipsBlanks_skipWith item) (fun row gap rest hrow hgap _ => ?_)
  change skipList item (row ++ (gap ++ ']' :: rest)) = _
  cases hrow with
  | nil =>
      rw [List.nil_append, hskips gap _ hgap]
      rfl
  | @cons _ lead cs more d ds hlead hcs hmore =>
      have hnone : lead = [] := hlead
      rcases d.exists_visible cs hcs with ⟨front, c, word, rfl, hfront, hc, hvisible⟩
      -- No item is empty, so there are characters enough for all rounds.
      have hlength : ds.length ≤ more.length := hmore.length_le fun d _ cs hcs => by
        rcases d.exists_visible cs hcs with ⟨_, _, _, rfl, _⟩
        simp
      have hitems := skipItems_row item ds more gap rest hmore hgap d (c :: word) hvisible hitem
        (' ' :: ((c :: word) ++ (more ++ (gap ++ ']' :: rest)))) (by simp; omega)
      simp only [hnone, List.nil_append, List.append_assoc, List.cons_append] at hitems ⊢
      rw [hskips front _ hfront, skipList,
        bind_ok next? _ _ _ _ (next?_cons c _ (d.not_blank_of_ledBy c hc))]
      refine (congrFun (?_ : _ = (fuel >>= skipItems item)) _).trans hitems
      split
      · next hclose => exact absurd (Option.some.inj hclose) (d.ne_bracket_of_ledBy c hc)
      · rfl
      · next hnone => cases hnone

/-- The inside of an object that is skipped. -/
def skipObject (item : Reader Unit) : Reader Unit := do
  match ← next? with
  | some '\x7d' => advance
  | some _ => skipMembers item (← fuel)
  | none => throw .objectCutOff

theorem makes_skipWith_object (item : Reader Unit) (members : List (Literal × Doc))
    (hitem : ∀ m ∈ members, Makes item m.2 (.ok ())) :
    Makes (skipWith item) (.object members) (.ok ()) := by
  have hskips : SkipsBlanks (skipObject item) := skipsBlanks_bind _ _ skipsBlanks_next?
  refine makes_object (skipsBlanks_skipWith item) (fun row gap rest hrow hgap _ => ?_)
  change skipObject item (row ++ (gap ++ '\x7d' :: rest)) = _
  cases hrow with
  | nil =>
      rw [List.nil_append, hskips gap _ hgap]
      rfl
  | @cons _ lead cs more m ms hlead hcs hmore =>
      have hnone : lead = [] := hlead
      rcases spaced_cons.1 hcs with ⟨front, behind, hfront, hbehind, rfl⟩
      have hvisible : Spaced (Doc.lexemesOf m) (m.1.chars ++ behind) := .cons isGap_nil hbehind
      have hlength : ms.length ≤ more.length := hmore.length_le fun m _ cs hcs => by
        rcases spaced_cons.1 hcs with ⟨_, _, _, _, rfl⟩
        simp [Literal.chars]
      have hmembers := skipMembers_row item ms more gap rest hmore hgap m _ hvisible hitem
        (' ' :: ((m.1.chars ++ behind) ++ (more ++ (gap ++ '\x7d' :: rest)))) (by simp; omega)
      simp only [hnone, List.nil_append, List.append_assoc] at hmembers ⊢
      rw [hskips front _ hfront]
      exact hmembers

theorem makes_skipWith_number (item : Reader Unit) (n : Numeral) :
    Makes (skipWith item) (.number n) (.ok ()) := by
  refine makes_lexeme (skipsBlanks_skipWith item) rfl (fun rest hrest => ?_)
  rcases n.exists_start rest with ⟨c, hc, hstart⟩
  have hskip := n.skipNumber_chars rest hrest
  rw [skipWith, bind_ok start _ _ _ _ hstart]
  refine (congrFun ?_ _).trans hskip
  split
  · cases hc
  · cases hc
  · cases hc
  · cases hc
  · cases hc
  · cases hc
  · rw [if_pos hc]

mutual

/-- A tree is skipped with depth enough. -/
theorem makes_skipWithin : (d : Doc) → ∀ depth : List Char, d.height < depth.length →
    Makes (skipWithin depth) d (.ok ())
  | d, [], hdepth => by cases hdepth
  | .null, _ :: depth, _ => makes_lexeme (skipsBlanks_skipWith _) rfl fun _ _ => rfl
  | .boolean true, _ :: depth, _ => makes_lexeme (skipsBlanks_skipWith _) rfl fun _ _ => rfl
  | .boolean false, _ :: depth, _ => makes_lexeme (skipsBlanks_skipWith _) rfl fun _ _ => rfl
  | .number n, _ :: depth, _ => makes_skipWith_number (skipWithin depth) n
  | .string s, _ :: depth, _ => by
      refine makes_lexeme (skipsBlanks_skipWith _) rfl (fun rest _ => ?_)
      have hskip := s.skipString_inside rest
      simp only [Literal.chars, List.append_assoc, List.cons_append, List.nil_append]
      exact hskip
  | .array items, _ :: depth, hdepth => by
      rw [Doc.height, List.length_cons] at hdepth
      exact makes_skipWith_array (skipWithin depth) items
        (makes_skipWithin_items items depth (by omega))
  | .object members, _ :: depth, hdepth => by
      rw [Doc.height, List.length_cons] at hdepth
      exact makes_skipWith_object (skipWithin depth) members
        (makes_skipWithin_members members depth (by omega))

theorem makes_skipWithin_items : (items : List Doc) → ∀ depth : List Char,
    Doc.itemsHeight items < depth.length → ∀ d ∈ items, Makes (skipWithin depth) d (.ok ())
  | [], _, _ => nofun
  | item :: rest, depth, hdepth => by
      rw [Doc.itemsHeight] at hdepth
      exact List.forall_mem_cons.2 ⟨makes_skipWithin item depth (by omega),
        makes_skipWithin_items rest depth (by omega)⟩

theorem makes_skipWithin_members : (members : List (Literal × Doc)) → ∀ depth : List Char,
    Doc.membersHeight members < depth.length →
      ∀ m ∈ members, Makes (skipWithin depth) m.2 (.ok ())
  | [], _, _ => nofun
  | (key, doc) :: rest, depth, hdepth => by
      rw [Doc.membersHeight] at hdepth
      exact List.forall_mem_cons.2 ⟨makes_skipWithin doc depth (by omega),
        makes_skipWithin_members rest depth (by omega)⟩

end

/-- Every tree is skipped: a text has more characters than its tree is
    high. -/
theorem makes_skipValue (d : Doc) : Makes skipValue d (.ok ()) := by
  intro cs rest hcs hrest
  have hheight := d.height_lt_length
  have hlength := hcs.length_le
  have hskip := makes_skipWithin d (' ' :: (cs ++ rest)) (by
    rw [List.length_cons, List.length_append]
    omega)
  exact hskip cs rest hcs hrest

end Reader

end Descent.Json
