import Descent.Proofs.Json.Records

/-!
# The Members of a Record

A record takes the members of an object one after the other, yet their order
does not matter: each field sets its own part of the draft and looks at
nothing else. `Lawful` is what has to be known of the fields of a record for
that. It is stated of the outcomes that fields have on trees, so that a field
may be read in whatever way.

From it follows what may be done to the members of a record that is read and
what may not. Members may trade places, other members may come in, and a
member may be replaced by one that is read alike. A field that comes twice, a
required field that is missing and a field that holds something else end in a
fault, whatever the other members are.

## Main definitions

* `Lawful`: Each field sets its own part of a draft.
* `IsPart`: A field that has a part to itself.
* `made`: What is made of the members of a record.

## Theorems

* `lawful_of_parts`: Fields with parts that do not meet are lawful.
* `isFilled_draftOf`: A draft has the fields that are among the members.
* `draftOf_perm`, `draftOf_insert`, `draftOf_congr`: What may be done.
* `draftOf_omit`: What a member has done to the draft.
* `ne_ok_of_repeated`, `ne_ok_of_missing`, `ne_ok_of_refused`: What may not.
-/

namespace Descent.Json.Reader

variable {α β δ : Type}

/-- Two fields set different parts of a draft. -/
structure Apart (f g : RecordField δ) : Prop where
  /-- Reading the one lets the other neither come nor go. -/
  isFilled : ∀ (d : Doc) (draft after : δ), d.outcome (f.fill draft) = .ok after →
    g.isFilled after = g.isFilled draft
  /-- They may be read in either order. -/
  commutes : ∀ (d e : Doc) (draft after : δ),
    (d.outcome (f.fill draft) >>= fun next => e.outcome (g.fill next)) = .ok after →
      (e.outcome (g.fill draft) >>= fun next => d.outcome (f.fill next)) = .ok after

/-- Each field of a record sets its own part of a draft. -/
structure Lawful (fields : List (RecordField δ)) : Prop where
  names : (fields.map (·.name)).Nodup
  settles : FieldsSettle fields
  /-- A field that has been read is there. -/
  filled : ∀ f ∈ fields, ∀ (d : Doc) (draft after : δ),
    d.outcome (f.fill draft) = .ok after → f.isFilled after = true
  apart : ∀ f ∈ fields, ∀ g ∈ fields, f.name ≠ g.name → Apart f g

theorem Lawful.eq_of_name {fields : List (RecordField δ)} (hfields : Lawful fields)
    (f : RecordField δ) (hf : f ∈ fields) (g : RecordField δ) (hg : g ∈ fields)
    (hsame : f.name = g.name) : f = g := by
  have hfound := find?_name fields hfields.names f hf
  rw [hsame, find?_name fields hfields.names g hg] at hfound
  exact (Option.some.inj hfound).symm

theorem outcome_map (f : α → δ) (reader : Reader α) (d : Doc) :
    d.outcome (f <$> reader) = (d.outcome reader).map f := by
  rw [Doc.outcome, Doc.outcome, map_apply]
  cases reader d.lexemes.flatten with
  | error fault => rfl
  | ok read => rfl

/-- What is filled by a field is what its reader has made. -/
theorem exists_of_outcome_map (f : α → δ) (reader : Reader α) (d : Doc) (after : δ)
    (hafter : d.outcome (f <$> reader) = .ok after) :
    ∃ a, d.outcome reader = .ok a ∧ after = f a := by
  rw [outcome_map] at hafter
  cases houtcome : d.outcome reader with
  | error fault =>
      rw [houtcome] at hafter
      cases hafter
  | ok a =>
      rw [houtcome] at hafter
      exact ⟨a, rfl, (Except.ok.inj hafter).symm⟩

/-- A result behind another one needs both. -/
theorem exists_of_bind_ok {ε : Type} {first : Except ε α} {next : α → Except ε δ} {b : δ}
    (hb : (first >>= next) = .ok b) : ∃ a, first = .ok a ∧ next a = .ok b := by
  cases first with
  | error fault => cases hb
  | ok a => exact ⟨a, rfl, hb⟩

theorem exists_error_of_ne_ok (outcome : Except Fault α) (hne : ∀ a, outcome ≠ .ok a) :
    ∃ fault, outcome = .error fault := by
  cases outcome with
  | ok a => exact absurd rfl (hne a)
  | error fault => exact ⟨fault, rfl⟩

/-- A field is read by this reader and put into its own part of the draft. -/
structure Sets (f : RecordField δ) (get : δ → Option α) (set : δ → α → δ) (reader : Reader α) :
    Prop where
  isFilled : ∀ draft, f.isFilled draft = (get draft).isSome
  fill : ∀ draft, f.fill draft = set draft <$> reader

theorem apart_of_sets {f g : RecordField δ} {get : δ → Option α} {set : δ → α → δ}
    {reader : Reader α} {get' : δ → Option β} {set' : δ → β → δ} {reader' : Reader β}
    (hf : Sets f get set reader) (hg : Sets g get' set' reader')
    (hget : ∀ draft a, get' (set draft a) = get' draft)
    (hset : ∀ draft a b, set' (set draft a) b = set (set' draft b) a) : Apart f g := by
  constructor
  · intro d draft after hafter
    rw [hf.fill] at hafter
    rcases exists_of_outcome_map _ _ d after hafter with ⟨a, _, rfl⟩
    rw [hg.isFilled, hg.isFilled, hget]
  · intro d e draft after hafter
    rcases exists_of_bind_ok hafter with ⟨next, hnext, hlast⟩
    rw [hf.fill] at hnext
    rw [hg.fill] at hlast
    rcases exists_of_outcome_map _ _ d next hnext with ⟨a, ha, rfl⟩
    rcases exists_of_outcome_map _ _ e after hlast with ⟨b, hb, rfl⟩
    -- Each reader makes the same of its tree, and the two parts do not meet.
    rw [hg.fill, outcome_map, hb]
    change d.outcome (f.fill (set' draft b)) = _
    rw [hf.fill, outcome_map, ha, hset]
    rfl

/-- A field has a part of the draft to itself. -/
def IsPart (f : RecordField δ) : Prop :=
  ∃ (α : Type) (get : δ → Option α) (set : δ → α → δ) (reader : Reader α),
    Sets f get set reader ∧ Settles reader ∧ ∀ draft a, get (set draft a) = some a

theorem isPart_required (name : String) (get : δ → Option α) (set : δ → α → δ)
    (reader : Reader α) (hreader : Settles reader) (hget : ∀ draft a, get (set draft a) = some a) :
    IsPart (.required name get set reader) :=
  ⟨α, get, set, reader, ⟨fun _ => rfl, fun _ => rfl⟩, hreader, hget⟩

theorem isPart_optional (name : String) (get : δ → Option α) (set : δ → α → δ)
    (reader : Reader α) (hreader : Settles reader) (hget : ∀ draft a, get (set draft a) = some a) :
    IsPart (.optional name get set reader) :=
  ⟨α, get, set, reader, ⟨fun _ => rfl, fun _ => rfl⟩, hreader, hget⟩

/-- Fields are lawful if each has a part of the draft and no two parts meet. -/
theorem lawful_of_parts {fields : List (RecordField δ)} (hnames : (fields.map (·.name)).Nodup)
    (hparts : ∀ f ∈ fields, IsPart f)
    (hapart : ∀ f ∈ fields, ∀ g ∈ fields, f.name ≠ g.name → Apart f g) : Lawful fields where
  names := hnames
  settles := by
    intro f hf draft
    rcases hparts f hf with ⟨α, get, set, reader, hsets, hreader, _⟩
    rw [hsets.fill]
    exact settles_map _ hreader
  filled := by
    intro f hf d draft after hafter
    rcases hparts f hf with ⟨α, get, set, reader, hsets, _, hget⟩
    rw [hsets.fill] at hafter
    rcases exists_of_outcome_map _ _ d after hafter with ⟨a, _, rfl⟩
    rw [hsets.isFilled, hget]
    rfl
  apart := hapart

/-! ## One member -/

section Step

variable (fields : List (RecordField δ))

/-- A draft after one more member. -/
def step (draft : δ) (m : Literal × Doc) : Except Fault δ :=
  m.1.reading >>= (memberStep fields draft · m.2)

theorem draftOf_cons (m : Literal × Doc) (ms : List (Literal × Doc)) (draft : δ) :
    draftOf fields (m :: ms) draft = step fields draft m >>= draftOf fields ms :=
  List.foldlM_cons

theorem draftOf_append (front back : List (Literal × Doc)) (draft : δ) :
    draftOf fields (front ++ back) draft =
      draftOf fields front draft >>= draftOf fields back := List.foldlM_append

variable {fields} (hfields : Lawful fields)

include hfields

/-- A member that is a field is read into a draft without it. -/
theorem step_field (f : RecordField δ) (hf : f ∈ fields) (draft : δ) (m : Literal × Doc)
    (hm : m.1.reading = .ok f.name) :
    step fields draft m =
      if f.isFilled draft then .error (.duplicateField f.name)
      else m.2.outcome (f.fill draft) := by
  rw [step, hm]
  change memberStep fields draft f.name m.2 = _
  rw [memberStep, find?_name fields hfields.names f hf]

omit hfields in
/-- A member that is no field changes nothing. -/
theorem step_other (draft : δ) (m : Literal × Doc) (name : String)
    (hm : m.1.reading = .ok name) (hname : name ∉ fields.map (·.name)) :
    step fields draft m = .ok draft := by
  have hnone : fields.find? (·.name = name) = none := by
    rw [List.find?_eq_none]
    intro f hf hsame
    exact hname (of_decide_eq_true hsame ▸ List.mem_map_of_mem hf)
  rw [step, hm]
  change memberStep fields draft name m.2 = _
  rw [memberStep, hnone]

omit hfields in
/-- A member that is taken is a field that was not there, or none. -/
theorem step_cases (draft after : δ) (m : Literal × Doc) (hstep : step fields draft m = .ok after) :
    (∃ f ∈ fields, m.1.reading = .ok f.name ∧ f.isFilled draft = false ∧
      m.2.outcome (f.fill draft) = .ok after) ∨
    (∃ name, m.1.reading = .ok name ∧ name ∉ fields.map (·.name) ∧ after = draft) := by
  rcases exists_of_bind_ok hstep with ⟨name, hm, hmember⟩
  rw [memberStep] at hmember
  cases hfound : fields.find? (·.name = name) with
  | none =>
      rw [hfound] at hmember
      refine .inr ⟨name, hm, fun hname => ?_, (Except.ok.inj hmember).symm⟩
      rcases List.mem_map.1 hname with ⟨f, hf, rfl⟩
      exact absurd (decide_eq_true rfl) (List.find?_eq_none.1 hfound f hf)
  | some f =>
      rw [hfound] at hmember
      have hname : f.name = name := by simpa using List.find?_some hfound
      refine .inl ⟨f, List.mem_of_find?_eq_some hfound, hname ▸ hm, ?_⟩
      by_cases hfilled : f.isFilled draft = true
      · simp only [if_pos hfilled] at hmember
        cases hmember
      · simp only [if_neg hfilled] at hmember
        exact ⟨Bool.eq_false_iff.2 hfilled, hmember⟩

/-- After a member its field is there, and otherwise the fields that were. -/
theorem isFilled_step (draft after : δ) (m : Literal × Doc)
    (hstep : step fields draft m = .ok after) (g : RecordField δ) (hg : g ∈ fields) :
    g.isFilled after = true ↔ m.1.reading = .ok g.name ∨ g.isFilled draft = true := by
  rcases step_cases draft after m hstep with ⟨f, hf, hm, hfilled, hfill⟩ | ⟨name, hm, hname, rfl⟩
  · by_cases hsame : f.name = g.name
    · rw [← hfields.eq_of_name f hf g hg hsame]
      exact iff_of_true (hfields.filled f hf _ _ _ hfill) (.inl hm)
    · rw [(hfields.apart f hf g hg hsame).isFilled _ _ _ hfill, hm]
      refine ⟨.inr, fun hor => hor.resolve_left fun hname => hsame (Except.ok.inj hname)⟩
  · rw [hm]
    refine ⟨.inr, fun hor => hor.resolve_left fun hsame => hname ?_⟩
    exact Except.ok.inj hsame ▸ List.mem_map_of_mem hg

/-- Two members may come in either order. -/
theorem step_comm (x y : Literal × Doc) (draft after : δ)
    (hxy : (step fields draft x >>= fun next => step fields next y) = .ok after) :
    (step fields draft y >>= fun next => step fields next x) = .ok after := by
  rcases exists_of_bind_ok hxy with ⟨mid, hx, hy⟩
  rcases step_cases draft mid x hx with ⟨f, hf, hxf, hfree, hfill⟩ | ⟨name, hxn, hname, rfl⟩
  · rcases step_cases mid after y hy with ⟨g, hg, hyg, hgfree, hgfill⟩ | ⟨name, hyn, hname, rfl⟩
    -- Two fields: they are different, as the second one was not there yet.
    · have hne : f.name ≠ g.name := by
        intro hsame
        have hthere := (isFilled_step hfields draft mid x hx g hg).2 (.inl (hsame ▸ hxf))
        rw [hgfree] at hthere
        cases hthere
      have hboth : (x.2.outcome (f.fill draft) >>= fun next => y.2.outcome (g.fill next)) =
          .ok after := by
        rw [hfill]
        exact hgfill
      rcases exists_of_bind_ok ((hfields.apart f hf g hg hne).commutes _ _ _ _ hboth) with
        ⟨other, hother, hlast⟩
      have hgdraft : g.isFilled draft = false := by
        rw [← (hfields.apart f hf g hg hne).isFilled _ _ _ hfill, hgfree]
      have hfother : f.isFilled other = false := by
        rw [(hfields.apart g hg f hf hne.symm).isFilled _ _ _ hother, hfree]
      have hfirst : step fields draft y = .ok other := by
        rw [step_field hfields g hg draft y hyg, hgdraft]
        exact hother
      rw [hfirst]
      change step fields other x = _
      rw [step_field hfields f hf other x hxf, hfother]
      exact hlast
    · rw [step_other draft y name hyn hname]
      exact hx
  · rw [hy]
    exact step_other after x name hxn hname

end Step

/-! ## All members -/

section Members

variable {fields : List (RecordField δ)} (hfields : Lawful fields)

include hfields

/-- A draft has the fields that are among the members, and those it had. -/
theorem isFilled_draftOf (ms : List (Literal × Doc)) (draft after : δ)
    (hdraft : draftOf fields ms draft = .ok after) (g : RecordField δ) (hg : g ∈ fields) :
    g.isFilled after = true ↔
      (∃ m ∈ ms, m.1.reading = .ok g.name) ∨ g.isFilled draft = true := by
  induction ms generalizing draft with
  | nil =>
      cases hdraft
      simp
  | cons m ms ih =>
      rw [draftOf_cons] at hdraft
      rcases exists_of_bind_ok hdraft with ⟨next, hnext, hrest⟩
      rw [ih next hrest, isFilled_step hfields draft next m hnext g hg, or_left_comm, ← or_assoc]
      simp only [List.mem_cons, exists_eq_or_imp]

/-- The order of the members does not matter. -/
theorem draftOf_perm (ms ms' : List (Literal × Doc)) (hperm : ms.Perm ms') (draft after : δ)
    (hdraft : draftOf fields ms draft = .ok after) : draftOf fields ms' draft = .ok after := by
  induction hperm generalizing draft with
  | nil => exact hdraft
  | cons m _ ih =>
      rw [draftOf_cons] at hdraft ⊢
      rcases exists_of_bind_ok hdraft with ⟨next, hnext, hrest⟩
      rw [hnext]
      exact ih next hrest
  | swap x y ms =>
      rw [draftOf_cons] at hdraft ⊢
      rcases exists_of_bind_ok hdraft with ⟨next, hnext, hrest⟩
      rw [draftOf_cons] at hrest
      rcases exists_of_bind_ok hrest with ⟨after', hafter', hlast⟩
      have hboth : (step fields draft y >>= fun next => step fields next x) = .ok after' := by
        rw [hnext]
        exact hafter'
      rcases exists_of_bind_ok (step_comm hfields y x draft after' hboth) with ⟨other, hx, hy⟩
      rw [hx]
      change draftOf fields (y :: ms) other = _
      rw [draftOf_cons, hy]
      exact hlast
  | trans _ _ ih ih' => exact ih' draft (ih draft hdraft)

omit hfields in
/-- A member that is no field may come in anywhere. -/
theorem draftOf_insert (front back : List (Literal × Doc)) (m : Literal × Doc) (name : String)
    (hm : m.1.reading = .ok name) (hname : name ∉ fields.map (·.name)) (draft : δ) :
    draftOf fields (front ++ m :: back) draft = draftOf fields (front ++ back) draft := by
  rw [draftOf_append, draftOf_append]
  refine congrArg _ (funext fun next => ?_)
  rw [draftOf_cons, step_other next m name hm hname]
  rfl

/-- A member may be replaced by one that is read alike. -/
theorem draftOf_congr (front back : List (Literal × Doc)) (key : Literal) (d d' : Doc)
    (halike : ∀ f ∈ fields, key.reading = .ok f.name → ∀ draft after,
      d.outcome (f.fill draft) = .ok after → d'.outcome (f.fill draft) = .ok after)
    (draft after : δ) (hdraft : draftOf fields (front ++ (key, d) :: back) draft = .ok after) :
    draftOf fields (front ++ (key, d') :: back) draft = .ok after := by
  rw [draftOf_append] at hdraft ⊢
  rcases exists_of_bind_ok hdraft with ⟨mid, hmid, hrest⟩
  rw [draftOf_cons] at hrest
  rcases exists_of_bind_ok hrest with ⟨next, hnext, hback⟩
  have hstep : step fields mid (key, d') = .ok next := by
    rcases step_cases mid next (key, d) hnext with
      ⟨f, hf, hkey, hfree, hfill⟩ | ⟨name, hkey, hname, rfl⟩
    · rw [step_field hfields f hf mid (key, d') hkey, hfree]
      exact halike f hf hkey mid next hfill
    · exact step_other next (key, d') name hkey hname
  rw [hmid]
  change draftOf fields ((key, d') :: back) mid = _
  rw [draftOf_cons, hstep]
  exact hback

/-- What a field has done to the draft, as if it had come last. -/
theorem draftOf_omit (front back : List (Literal × Doc)) (m : Literal × Doc) (f : RecordField δ)
    (hf : f ∈ fields) (hm : m.1.reading = .ok f.name) (draft after : δ)
    (hdraft : draftOf fields (front ++ m :: back) draft = .ok after) :
    ∃ before, draftOf fields (front ++ back) draft = .ok before ∧ f.isFilled before = false ∧
      m.2.outcome (f.fill before) = .ok after := by
  have hperm : (front ++ m :: back).Perm (front ++ back ++ [m]) :=
    List.perm_middle.trans (List.perm_append_singleton m _).symm
  have hlast := draftOf_perm hfields _ _ hperm draft after hdraft
  rw [draftOf_append] at hlast
  rcases exists_of_bind_ok hlast with ⟨before, hbefore, hstep⟩
  rw [draftOf_cons, step_field hfields f hf before m hm] at hstep
  refine ⟨before, hbefore, ?_⟩
  by_cases hfilled : f.isFilled before = true
  · rw [if_pos hfilled] at hstep
    cases hstep
  · rw [if_neg hfilled] at hstep
    rcases exists_of_bind_ok hstep with ⟨after', hafter', hnil⟩
    cases hnil
    exact ⟨Bool.eq_false_iff.2 hfilled, hafter'⟩

/-! ## Faults -/

/-- No field may come twice. -/
theorem ne_ok_of_repeated (front mid back : List (Literal × Doc)) (m m' : Literal × Doc)
    (f : RecordField δ) (hf : f ∈ fields) (hm : m.1.reading = .ok f.name)
    (hm' : m'.1.reading = .ok f.name) (draft after : δ) :
    draftOf fields (front ++ m :: (mid ++ m' :: back)) draft ≠ .ok after := by
  intro hdraft
  have hsplit : front ++ m :: (mid ++ m' :: back) = (front ++ m :: mid) ++ m' :: back := by
    simp
  rw [hsplit] at hdraft
  rw [draftOf_append] at hdraft
  rcases exists_of_bind_ok hdraft with ⟨before, hbefore, hrest⟩
  -- The first one has filled the field, so the second one finds it filled.
  have hfilled := (isFilled_draftOf hfields _ draft before hbefore f hf).2
    (.inl ⟨m, by simp, hm⟩)
  rw [draftOf_cons, step_field hfields f hf before m' hm', if_pos hfilled] at hrest
  cases hrest

/-- No required field may be missing. -/
theorem ne_ok_of_missing (ms : List (Literal × Doc)) (f : RecordField δ) (hf : f ∈ fields)
    (hrequired : f.isRequired = true) (hms : ∀ m ∈ ms, m.1.reading ≠ .ok f.name) (draft after : δ)
    (hfree : f.isFilled draft = false) :
    (draftOf fields ms draft >>= completed fields) ≠ .ok after := by
  intro hrecord
  rcases exists_of_bind_ok hrecord with ⟨last, hlast, hcomplete⟩
  have hempty : f.isFilled last = false := by
    refine Bool.eq_false_iff.2 (fun hfilled => ?_)
    rw [isFilled_draftOf hfields ms draft last hlast f hf, hfree] at hfilled
    rcases hfilled with ⟨m, hm, hname⟩ | hfilled
    · exact hms m hm hname
    · cases hfilled
  rw [completed] at hcomplete
  cases hfound : fields.find? fun field => field.isRequired && !field.isFilled last with
  | some field =>
      rw [hfound] at hcomplete
      cases hcomplete
  | none =>
      have hcovered := List.find?_eq_none.1 hfound f hf
      rw [hrequired, hempty] at hcovered
      exact hcovered rfl

/-- No field may hold something that is refused. -/
theorem ne_ok_of_refused (ms : List (Literal × Doc)) (m : Literal × Doc) (hm : m ∈ ms)
    (f : RecordField δ) (hf : f ∈ fields) (hname : m.1.reading = .ok f.name)
    (hrefused : ∀ draft after, m.2.outcome (f.fill draft) ≠ .ok after) (draft after : δ) :
    draftOf fields ms draft ≠ .ok after := by
  intro hdraft
  rcases List.append_of_mem hm with ⟨front, back, rfl⟩
  rcases draftOf_omit hfields front back m f hf hname draft after hdraft with ⟨before, _, _, hfill⟩
  exact hrefused before after hfill

end Members

/-! ## Records -/

section Records

variable (fields : List (RecordField δ)) (blank : δ) (finish : δ → Except Fault α)

/-- What is made of the members of a record: the draft must be complete, and
    is then finished. -/
def made (members : List (Literal × Doc)) : Except Fault α :=
  (draftOf fields members blank >>= completed fields) >>= finish

variable {fields blank finish}

/-- A draft is complete if it has all that is required. -/
theorem completed_eq_ok (draft after : δ) :
    completed fields draft = .ok after ↔
      after = draft ∧ ∀ f ∈ fields, f.isRequired = true → f.isFilled draft = true := by
  unfold completed
  cases hfound : fields.find? fun field => field.isRequired && !field.isFilled draft with
  | some field =>
      have hmissing := List.find?_some hfound
      refine iff_of_false nofun (fun hall => ?_)
      have hfilled := hall.2 field (List.mem_of_find?_eq_some hfound)
      simp_all
  | none =>
      have hnone := List.find?_eq_none.1 hfound
      constructor
      · intro hsame
        refine ⟨(Except.ok.inj hsame).symm, fun f hf hrequired => ?_⟩
        have hcovered := hnone f hf
        simpa [hrequired] using hcovered
      · exact fun hall => hall.1 ▸ rfl

theorem made_eq_ok (members : List (Literal × Doc)) (a : α) :
    made fields blank finish members = .ok a ↔
      ∃ draft, draftOf fields members blank = .ok draft ∧
        (∀ f ∈ fields, f.isRequired = true → f.isFilled draft = true) ∧ finish draft = .ok a := by
  constructor
  · intro hmade
    rcases exists_of_bind_ok hmade with ⟨after, hrecord, hfinish⟩
    rcases exists_of_bind_ok hrecord with ⟨draft, hdraft, hcomplete⟩
    rcases (completed_eq_ok draft after).1 hcomplete with ⟨rfl, hall⟩
    exact ⟨after, hdraft, hall, hfinish⟩
  · rintro ⟨draft, hdraft, hall, hfinish⟩
    have hcomplete := (completed_eq_ok draft draft).2 ⟨rfl, hall⟩
    rw [made, hdraft]
    change (completed fields draft >>= finish) = _
    rw [hcomplete]
    exact hfinish

/-- What is made of a record does not depend on more than its draft. -/
theorem made_of_draftOf (ms ms' : List (Literal × Doc))
    (hdraft : ∀ draft, draftOf fields ms blank = .ok draft → draftOf fields ms' blank = .ok draft)
    (a : α) (hmade : made fields blank finish ms = .ok a) :
    made fields blank finish ms' = .ok a := by
  rcases (made_eq_ok ms a).1 hmade with ⟨draft, hms, hall, hfinish⟩
  exact (made_eq_ok ms' a).2 ⟨draft, hdraft draft hms, hall, hfinish⟩

/-- A field may be left out if it is not required and makes no difference in
    the end. -/
theorem made_omit (hfields : Lawful fields) (front back : List (Literal × Doc))
    (m : Literal × Doc) (f : RecordField δ) (hf : f ∈ fields) (hm : m.1.reading = .ok f.name)
    (hoptional : f.isRequired = false)
    (hdefault : ∀ before after, f.isFilled before = false →
      m.2.outcome (f.fill before) = .ok after → finish after = finish before)
    (a : α) (hmade : made fields blank finish (front ++ m :: back) = .ok a) :
    made fields blank finish (front ++ back) = .ok a := by
  rcases (made_eq_ok _ a).1 hmade with ⟨after, hms, hall, hfinish⟩
  rcases draftOf_omit hfields front back m f hf hm blank after hms with
    ⟨before, hbefore, hfree, hfill⟩
  refine (made_eq_ok _ a).2 ⟨before, hbefore, fun g hg hrequired => ?_, ?_⟩
  -- All that is required is some other field, which was there before.
  · have hne : f.name ≠ g.name := by
      intro hsame
      rw [← hfields.eq_of_name f hf g hg hsame, hoptional] at hrequired
      cases hrequired
    rw [← (hfields.apart f hf g hg hne).isFilled _ _ _ hfill]
    exact hall g hg hrequired
  · rw [← hdefault before after hfree hfill]
    exact hfinish

end Records

end Descent.Json.Reader
