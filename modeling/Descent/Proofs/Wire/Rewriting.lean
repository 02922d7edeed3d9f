import Mathlib.Logic.Relation
import Descent.Proofs.Wire.Places

/-!
# Rewriting Documents

What may be done to a document without a change to what is read from it. The
steps are small and each is taken somewhere in the tree: the members of a
record trade places, a member comes in that is no field, a field goes that
holds what it would be without it, and in a map a member comes in front of a
later one with the same key. The last one has to be readable where it
stands; one that is no field may be anything at all. Members of a map trade
places too, as long as the last one under a key remains the last one.

A step keeps the data of the whole document. That is not said of the documents
that are written alone, but of every document that is read, so that steps can
follow one another and the induction over a run needs no further invariant.

The other way round, a document is flawed if somewhere in it a required field
is missing or a field comes twice. A flaw is found wherever it is: the rest of
the document may be anything, since what a reader makes of the other parts is
always settled, and if it is not a fault it is read on to the flaw.

## Main definitions

* `Rewrite`: One step.
* `Flawed`: A field is missing or comes twice.

## Theorems

* `Rewrite.keeps`, `keeps_of_rewrites`: A step, and a run of steps, keep what
  is read.
* `Flawed.ne_ok`: Nothing is read from a document with a flaw.
-/

namespace Descent

open Json Reader

/-- One step of rewriting in a place, with room to open so many containers. -/
inductive Rewrite : Place → Nat → Doc → Doc → Prop
  /-- The members of a record trade places. -/
  | permute {p : Place} {room : Nat} {members members' : List (Literal × Doc)}
      (hrecord : p.isRecord = true) (hperm : members.Perm members') :
      Rewrite p (room + 1) (.object members) (.object members')
  /-- A member comes in that is no field. -/
  | insert {p : Place} {room : Nat} {front back : List (Literal × Doc)} {key : Literal}
      {name : String} {d : Doc} (hrecord : p.isRecord = true) (hkey : key.reading = .ok name)
      (hname : name ∉ p.names) :
      Rewrite p (room + 1) (.object (front ++ back)) (.object (front ++ (key, d) :: back))
  /-- A field goes that holds what it would be without it. -/
  | drop {p : Place} {room : Nat} {front back : List (Literal × Doc)} {key : Literal}
      {name : String} {d : Doc} (hkey : key.reading = .ok name)
      (hdefault : (name, d) ∈ p.omissible) :
      Rewrite p (room + 1) (.object (front ++ (key, d) :: back)) (.object (front ++ back))
  /-- Two members of a map with different keys trade places. -/
  | trade {p : Place} {room : Nat} {front back : List (Literal × Doc)} {m m' : Literal × Doc}
      {name name' : String} (hmap : p.isMap = true) (hm : m.1.reading = .ok name)
      (hm' : m'.1.reading = .ok name') (hne : name ≠ name') :
      Rewrite p (room + 1) (.object (front ++ m :: m' :: back))
        (.object (front ++ m' :: m :: back))
  /-- A member of a map comes in front of a later one with the same key. -/
  | shadow {p : Place} {room : Nat} {front back : List (Literal × Doc)} {key : Literal}
      {name : String} {d : Doc} (hmap : p.isMap = true) (hkey : key.reading = .ok name)
      (hlater : ∃ m ∈ back, m.1.reading = .ok name) (hvalue : d.value?.isSome = true)
      (hroom : d.height ≤ room) :
      Rewrite p (room + 1) (.object (front ++ back)) (.object (front ++ (key, d) :: back))
  /-- What is under a key is rewritten. -/
  | member {p q : Place} {room : Nat} {front back : List (Literal × Doc)} {key : Literal}
      {name : String} {d d' : Doc} (hkey : key.reading = .ok name)
      (hinside : p.IsInside name q) (hstep : Rewrite q room d d') :
      Rewrite p (room + 1) (.object (front ++ (key, d) :: back))
        (.object (front ++ (key, d') :: back))
  /-- An item is rewritten. -/
  | item {p q : Place} {room : Nat} {front back : List Doc} {d d' : Doc}
      (hitem : p.item = some q) (hstep : Rewrite q room d d') :
      Rewrite p (room + 1) (.array (front ++ d :: back)) (.array (front ++ d' :: back))

/-- Somewhere a required field is missing or a field comes twice. -/
inductive Flawed : Place → Doc → Prop
  | missing {p : Place} {members : List (Literal × Doc)} (name : String)
      (hname : name ∈ p.required) (hmissing : ∀ m ∈ members, m.1.reading ≠ .ok name) :
      Flawed p (.object members)
  | repeated {p : Place} {front mid back : List (Literal × Doc)} {m m' : Literal × Doc}
      (name : String) (hname : name ∈ p.names) (hm : m.1.reading = .ok name)
      (hm' : m'.1.reading = .ok name) :
      Flawed p (.object (front ++ m :: (mid ++ m' :: back)))
  | member {p q : Place} {members : List (Literal × Doc)} (m : Literal × Doc) (hm : m ∈ members)
      (name : String) (hname : m.1.reading = .ok name) (hplace : (name, q) ∈ p.places)
      (hflawed : Flawed q m.2) : Flawed p (.object members)
  | item {p q : Place} {items : List Doc} (d : Doc) (hd : d ∈ items) (hitem : p.item = some q)
      (hflawed : Flawed q d) : Flawed p (.array items)

namespace Place

theorem isRecord_of_mem_names (p : Place) (name : String) (hname : name ∈ p.names) :
    p.isRecord = true := by
  cases p with
  | node | range | position | options => rfl
  | nodes | notes | note => cases hname

theorem mem_names_of_required (p : Place) (name : String) (hname : name ∈ p.required) :
    name ∈ p.names := by
  cases p with
  | node =>
      simp only [required, List.mem_cons, List.not_mem_nil, or_false] at hname
      rcases hname with rfl | rfl | rfl <;> simp [names]
  | range | position => exact hname
  | nodes | notes | note | options => cases hname

/-- A field that may be left out is a field, and not a required one. -/
theorem names_of_omissible (p : Place) (name : String) (d : Doc) (hd : (name, d) ∈ p.omissible) :
    name ∈ p.names ∧ name ∉ p.required := by
  cases p with
  | node =>
      simp only [omissible, List.mem_cons, Prod.mk.injEq, List.not_mem_nil, or_false] at hd
      rcases hd with ⟨rfl, _⟩ | ⟨rfl, _⟩ | ⟨rfl, _⟩ <;> simp [names, required]
  | options =>
      simp only [omissible, List.mem_cons, Prod.mk.injEq, List.not_mem_nil, or_false] at hd
      rcases hd with ⟨rfl, _⟩ | ⟨rfl, _⟩ <;> simp [names, required]
  | nodes | range | position | notes | note => cases hd

theorem mem_names_of_places (p q : Place) (name : String) (hq : (name, q) ∈ p.places) :
    name ∈ p.names := by
  cases p with
  | node =>
      simp only [places, List.mem_cons, Prod.mk.injEq, List.not_mem_nil, or_false] at hq
      rcases hq with ⟨rfl, _⟩ | ⟨rfl, _⟩ | ⟨rfl, _⟩ <;> simp [names]
  | range =>
      simp only [places, List.mem_cons, Prod.mk.injEq, List.not_mem_nil, or_false] at hq
      rcases hq with ⟨rfl, _⟩ | ⟨rfl, _⟩ <;> simp [names]
  | nodes | position | notes | note | options => cases hq

/-- A map is made of its members. -/
theorem exists_entries (p : Place) (hmap : p.isMap = true) (room : Nat) :
    ∃ f : List (String × Value) → p.Content, ∀ members,
      (Doc.object members).outcome (p.reader (room + 1)) =
        (entries (value room) [] members).map f := by
  cases p with
  | notes => exact ⟨_, Meta.outcome_object room⟩
  | note => exact ⟨_, outcome_value_object room⟩
  | node | nodes | range | position | options => cases hmap

/-- A list is made of its items. -/
theorem exists_items (p q : Place) (hitem : p.item = some q) (room : Nat) :
    ∃ f : List q.Content → p.Content, ∀ items,
      (Doc.array items).outcome (p.reader (room + 1)) =
        (items.mapM (Doc.outcome (q.reader room))).map f := by
  cases p with
  | nodes =>
      cases hitem
      refine ⟨id, fun items => (Node.outcome_array room items).trans ?_⟩
      exact (congrFun Except.map_id _).symm
  | note =>
      cases hitem
      exact ⟨_, outcome_value_array room⟩
  | node | range | position | notes | options => cases hitem

/-- No container is opened without room. -/
theorem object_ne_ok (p : Place) (members : List (Literal × Doc)) (x : p.Content) :
    (Doc.object members).outcome (p.reader 0) ≠ .ok x := by
  cases p <;> nofun

theorem array_ne_ok (p q : Place) (hitem : p.item = some q) (items : List Doc) (x : p.Content) :
    (Doc.array items).outcome (p.reader 0) ≠ .ok x := by
  cases p with
  | nodes | note => nofun
  | node | range | position | notes | options => cases hitem

end Place

namespace Sheet

variable {p : Place} {room : Nat} (S : Sheet p room)

theorem outcome_object (members : List (Literal × Doc)) :
    (Doc.object members).outcome (p.reader (room + 1)) = made S.fields S.blank S.finish members :=
  (S.makes members).outcome_eq

theorem exists_field (name : String) (hname : name ∈ p.names) :
    ∃ f ∈ S.fields, f.name = name := by
  rw [← S.names] at hname
  exact List.mem_map.1 hname

end Sheet

/-! ## Items -/

section Items

variable {α : Type} (outcome : Doc → Except Fault α)

/-- An item may be replaced by one that is read alike. -/
theorem mapM_congr_ok (front back : List Doc) (d d' : Doc)
    (halike : ∀ a, outcome d = .ok a → outcome d' = .ok a) (all : List α)
    (hall : (front ++ d :: back).mapM outcome = .ok all) :
    (front ++ d' :: back).mapM outcome = .ok all := by
  induction front generalizing all with
  | nil =>
      rw [List.nil_append, List.mapM_cons] at hall ⊢
      rcases exists_of_bind_ok hall with ⟨a, ha, hrest⟩
      rw [halike a ha]
      exact hrest
  | cons x front ih =>
      rw [List.cons_append, List.mapM_cons] at hall ⊢
      rcases exists_of_bind_ok hall with ⟨a, ha, hrest⟩
      rcases exists_of_bind_ok hrest with ⟨others, hothers, hlast⟩
      rw [ha]
      change ((front ++ d' :: back).mapM outcome >>= _) = _
      rw [ih others hothers]
      exact hlast

/-- A list is read only if all of its items are. -/
theorem exists_of_mapM_ok (items : List Doc) (all : List α) (hall : items.mapM outcome = .ok all)
    (d : Doc) (hd : d ∈ items) : ∃ a, outcome d = .ok a := by
  induction items generalizing all with
  | nil => cases hd
  | cons x items ih =>
      rw [List.mapM_cons] at hall
      rcases exists_of_bind_ok hall with ⟨a, ha, hrest⟩
      rcases exists_of_bind_ok hrest with ⟨others, hothers, _⟩
      rcases List.mem_cons.1 hd with rfl | hd
      · exact ⟨a, ha⟩
      · exact ih others hothers hd

end Items

/-! ## Steps -/

section Steps

variable {p q : Place} {room : Nat}

/-- Whatever is read from the one tree is read from the other. -/
def Keeps (p : Place) (room : Nat) (d d' : Doc) : Prop :=
  ∀ x, d.outcome (p.reader room) = .ok x → d'.outcome (p.reader room) = .ok x

theorem keeps_permute (hrecord : p.isRecord = true) (members members' : List (Literal × Doc))
    (hperm : members.Perm members') :
    Keeps p (room + 1) (.object members) (.object members') := by
  intro x hx
  have S := p.sheet hrecord room
  rw [S.outcome_object] at hx ⊢
  exact made_of_draftOf members members'
    (fun draft hdraft => draftOf_perm S.lawful members members' hperm S.blank draft hdraft) x hx

theorem keeps_insert (hrecord : p.isRecord = true) (front back : List (Literal × Doc))
    (key : Literal) (d : Doc) (name : String) (hkey : key.reading = .ok name)
    (hname : name ∉ p.names) :
    Keeps p (room + 1) (.object (front ++ back)) (.object (front ++ (key, d) :: back)) := by
  intro x hx
  have S := p.sheet hrecord room
  rw [S.outcome_object] at hx ⊢
  refine made_of_draftOf _ _ (fun draft hdraft => ?_) x hx
  rw [draftOf_insert front back (key, d) name hkey (S.names.symm ▸ hname)]
  exact hdraft

theorem keeps_drop (front back : List (Literal × Doc)) (key : Literal) (d : Doc) (name : String)
    (hkey : key.reading = .ok name) (hdefault : (name, d) ∈ p.omissible) :
    Keeps p (room + 1) (.object (front ++ (key, d) :: back)) (.object (front ++ back)) := by
  intro x hx
  rcases p.names_of_omissible name d hdefault with ⟨hname, hoptional⟩
  have S := p.sheet (p.isRecord_of_mem_names name hname) room
  rcases S.exists_field name hname with ⟨f, hf, rfl⟩
  rw [S.outcome_object] at hx ⊢
  exact made_omit S.lawful front back (key, d) f hf hkey
    ((S.required f hf).trans (decide_eq_false hoptional)) (S.omissible f hf d hdefault) x hx

/-- A map keeps what is read if its members do. -/
theorem keeps_entries (hmap : p.isMap = true) (members members' : List (Literal × Doc))
    (hkeeps : ∀ all, entries (value room) [] members = .ok all →
      entries (value room) [] members' = .ok all) :
    Keeps p (room + 1) (.object members) (.object members') := by
  intro x hx
  rcases p.exists_entries hmap room with ⟨f, hf⟩
  rw [hf] at hx ⊢
  cases hall : entries (value room) [] members with
  | error fault =>
      rw [hall] at hx
      cases hx
  | ok all =>
      rw [hall] at hx
      rw [hkeeps all hall]
      exact hx

theorem keeps_trade (hmap : p.isMap = true) (front back : List (Literal × Doc))
    (m m' : Literal × Doc) (name name' : String) (hm : m.1.reading = .ok name)
    (hm' : m'.1.reading = .ok name') (hne : name ≠ name') :
    Keeps p (room + 1) (.object (front ++ m :: m' :: back))
      (.object (front ++ m' :: m :: back)) :=
  keeps_entries hmap _ _ fun all hall =>
    entries_swap front back m m' name name' hm hm' hne [] all hall

theorem keeps_shadow (hmap : p.isMap = true) (front back : List (Literal × Doc)) (key : Literal)
    (d : Doc) (name : String) (hkey : key.reading = .ok name)
    (hlater : ∃ m ∈ back, m.1.reading = .ok name) (hvalue : d.value?.isSome = true)
    (hroom : d.height ≤ room) :
    Keeps p (room + 1) (.object (front ++ back)) (.object (front ++ (key, d) :: back)) := by
  rcases Option.isSome_iff_exists.1 hvalue with ⟨v, hv⟩
  exact keeps_entries hmap _ _ fun all hall =>
    entries_shadow front back key d name hkey v (outcome_value d v room hv hroom) hlater [] all hall

theorem keeps_member (front back : List (Literal × Doc)) (key : Literal) (d d' : Doc)
    (name : String) (hkey : key.reading = .ok name) (hinside : p.IsInside name q)
    (hkeeps : Keeps q room d d') :
    Keeps p (room + 1) (.object (front ++ (key, d) :: back))
      (.object (front ++ (key, d') :: back)) := by
  rcases hinside with hplace | ⟨hmap, rfl⟩
  -- In a record the field of this name is read by the reader of the place.
  · intro x hx
    have hname := p.mem_names_of_places q name hplace
    have S := p.sheet (p.isRecord_of_mem_names name hname) room
    rw [S.outcome_object] at hx ⊢
    refine made_of_draftOf _ _ (fun draft hdraft => ?_) x hx
    refine draftOf_congr S.lawful front back key d d' (fun f hf hkey' before after hfill => ?_)
      S.blank draft hdraft
    have hsame : f.name = name := Except.ok.inj (hkey'.symm.trans hkey)
    rcases S.inside f hf q (hsame ▸ hplace) with ⟨set, hset⟩
    rw [hset, outcome_map] at hfill ⊢
    cases ha : d.outcome (q.reader room) with
    | error fault =>
        rw [ha] at hfill
        cases hfill
    | ok a =>
        rw [ha] at hfill
        rw [hkeeps a ha]
        exact hfill
  · exact keeps_entries hmap _ _ fun all hall =>
      entries_congr front back key d d' hkeeps [] all hall

theorem keeps_item (hitem : p.item = some q) (front back : List Doc) (d d' : Doc)
    (hkeeps : Keeps q room d d') :
    Keeps p (room + 1) (.array (front ++ d :: back)) (.array (front ++ d' :: back)) := by
  intro x hx
  rcases p.exists_items q hitem room with ⟨f, hf⟩
  rw [hf] at hx ⊢
  cases hall : (front ++ d :: back).mapM (Doc.outcome (q.reader room)) with
  | error fault =>
      rw [hall] at hx
      cases hx
  | ok all =>
      rw [hall] at hx
      rw [mapM_congr_ok _ front back d d' hkeeps all hall]
      exact hx

/-- A step keeps what is read. The induction is on where it is taken. -/
theorem Rewrite.keeps {d d' : Doc} (hstep : Rewrite p room d d') : Keeps p room d d' := by
  induction hstep with
  | permute hrecord hperm => exact keeps_permute hrecord _ _ hperm
  | insert hrecord hkey hname => exact keeps_insert hrecord _ _ _ _ _ hkey hname
  | drop hkey hdefault => exact keeps_drop _ _ _ _ _ hkey hdefault
  | trade hmap hm hm' hne => exact keeps_trade hmap _ _ _ _ _ _ hm hm' hne
  | shadow hmap hkey hlater hvalue hroom =>
      exact keeps_shadow hmap _ _ _ _ _ hkey hlater hvalue hroom
  | member hkey hinside _ ih => exact keeps_member _ _ _ _ _ _ hkey hinside ih
  | item hitem _ ih => exact keeps_item hitem _ _ _ _ ih

/-- Any number of steps keep what is read. -/
theorem keeps_of_rewrites {d d' : Doc} (hsteps : Relation.ReflTransGen (Rewrite p room) d d') :
    Keeps p room d d' := by
  induction hsteps with
  | refl => exact fun _ hx => hx
  | tail _ hstep ih => exact fun x hx => hstep.keeps x (ih x hx)

end Steps

/-! ## Flaws -/

/-- Nothing is read from a document with a flaw, whatever else is in it. The
    induction is on where the flaw is. -/
theorem Flawed.ne_ok {p : Place} {d : Doc} (hflawed : Flawed p d) :
    ∀ room x, d.outcome (p.reader room) ≠ .ok x := by
  induction hflawed with
  | @missing p members name hname hmissing =>
      intro room x hx
      cases room with
      | zero => exact p.object_ne_ok members x hx
      | succ room =>
          have hfield := p.mem_names_of_required name hname
          have S := p.sheet (p.isRecord_of_mem_names name hfield) room
          rcases S.exists_field name hfield with ⟨f, hf, rfl⟩
          rw [S.outcome_object] at hx
          rcases exists_of_bind_ok hx with ⟨draft, hdraft, _⟩
          exact ne_ok_of_missing S.lawful members f hf
            ((S.required f hf).trans (decide_eq_true hname)) hmissing S.blank draft (S.free f hf)
            hdraft
  | @repeated p front mid back m m' name hname hm hm' =>
      intro room x hx
      cases room with
      | zero => exact p.object_ne_ok _ x hx
      | succ room =>
          have S := p.sheet (p.isRecord_of_mem_names name hname) room
          rcases S.exists_field name hname with ⟨f, hf, rfl⟩
          rw [S.outcome_object] at hx
          rcases (made_eq_ok _ x).1 hx with ⟨draft, hdraft, _⟩
          exact ne_ok_of_repeated S.lawful front mid back m m' f hf hm hm' S.blank draft hdraft
  | @member p q members m hm name hname hplace _ ih =>
      intro room x hx
      cases room with
      | zero => exact p.object_ne_ok members x hx
      | succ room =>
          have hfield := p.mem_names_of_places q name hplace
          have S := p.sheet (p.isRecord_of_mem_names name hfield) room
          rcases S.exists_field name hfield with ⟨f, hf, rfl⟩
          rcases S.inside f hf q hplace with ⟨set, hset⟩
          rw [S.outcome_object] at hx
          rcases (made_eq_ok _ x).1 hx with ⟨draft, hdraft, _⟩
          refine ne_ok_of_refused S.lawful members m hm f hf hname (fun before after hfill => ?_)
            S.blank draft hdraft
          -- The field is read by the reader of the place, which makes nothing
          -- of it.
          rw [hset] at hfill
          rcases exists_of_outcome_map _ _ m.2 after hfill with ⟨a, ha, _⟩
          exact ih room a ha
  | @item p q items d hd hitem _ ih =>
      intro room x hx
      cases room with
      | zero => exact p.array_ne_ok q hitem items x hx
      | succ room =>
          rcases p.exists_items q hitem room with ⟨f, hf⟩
          rw [hf] at hx
          cases hall : items.mapM (Doc.outcome (q.reader room)) with
          | error fault =>
              rw [hall] at hx
              cases hx
          | ok all =>
              rcases exists_of_mapM_ok _ items all hall d hd with ⟨a, ha⟩
              exact ih room a ha

end Descent
