import Descent.Proofs.Json.Numbers
import Descent.Proofs.Json.Syntax

/-!
# Reading Numbers as They Are Spelled

A numeral has its parts in a fixed order, and each part ends where the next
one begins: digits end in front of a point, a letter or whatever may follow a
number, and none of these is a digit. So a reader takes the parts of a numeral
one by one and stops behind the last of them. What it makes of the parts is
what the numeral stands for, or a fault if that is out of range.

Conversely, whatever is read as a number is spelled as a numeral. Nothing but
the grammar is needed for that, so a double that was written by a shortest
decimal is known to be a numeral as soon as it is known to be read.

## Theorems

* `number_chars`: What is made of a numeral.
* `skipNumber_chars`: A numeral that is skipped.
* `numeral_of_number`: What is read as a number is spelled as a numeral.
-/

namespace Descent.Json

open Reader

/-! ## Digits -/

theorem digits_run (ds rest : List Char) (hds : ∀ c ∈ ds, isDigit c = true)
    (hrest : ∀ c, rest.head? = some c → isDigit c = false) :
    digits (ds ++ rest) = .ok (ds, rest) := by
  have hstop : rest.takeWhile isDigit = [] ∧ rest.dropWhile isDigit = rest := by
    cases rest with
    | nil => exact ⟨rfl, rfl⟩
    | cons c rest => simp [hrest c rfl]
  rw [digits, List.takeWhile_append_of_pos hds, List.dropWhile_append_of_pos hds, hstop.1,
    hstop.2, List.append_nil]

theorem someDigits_run (ds : Digits) (rest : List Char)
    (hrest : ∀ c, rest.head? = some c → isDigit c = false) :
    someDigits (ds.1 ++ rest) = .ok (ds.1, rest) := by
  rcases ds with ⟨ds, hsome, hdigits⟩
  rw [someDigits, bind_ok digits _ _ _ _ (digits_run ds rest hdigits hrest)]
  cases ds with
  | nil => exact absurd rfl hsome
  | cons d ds => rfl

theorem skipDigits_run (ds : Digits) (rest : List Char)
    (hrest : ∀ c, rest.head? = some c → isDigit c = false) :
    skipDigits (ds.1 ++ rest) = .ok ((), rest) := by
  rcases ds with ⟨ds, hsome, hdigits⟩
  rw [skipDigits, bind_ok digits _ _ _ _ (digits_run ds rest hdigits hrest)]
  cases ds with
  | nil => exact absurd rfl hsome
  | cons d ds => rfl

/-- The first of some digits, and nothing that is not a digit. -/
theorem head_digits (ds : Digits) (rest : List Char) (c : Char)
    (hc : (ds.1 ++ rest).head? = some c) : isDigit c = true := by
  rcases ds with ⟨ds, hsome, hdigits⟩
  cases ds with
  | nil => exact absurd rfl hsome
  | cons d ds => exact Option.some.inj hc ▸ hdigits d List.mem_cons_self

theorem ne_of_isDigit (c d : Char) (hc : isDigit c = true) (hd : isDigit d = false) : c ≠ d := by
  rintro rfl
  rw [hc] at hd
  cases hd

/-! ## The parts of a numeral -/

namespace Power

theorem exponent_signed (p : Power) (rest : List Char)
    (hrest : ∀ c, rest.head? = some c → isDigit c = false) :
    Reader.exponent (p.signed ++ rest) = .ok (some p.exponent, rest) := by
  rcases p with ⟨isCapital, sign, ds⟩
  have hrun := someDigits_run ds rest hrest
  cases sign with
  | none =>
      have hsign : ∀ c, (ds.1 ++ rest).head? = some c → c ≠ '-' ∧ c ≠ '+' := fun c hc =>
        ⟨ne_of_isDigit c _ (head_digits ds rest c hc) rfl,
          ne_of_isDigit c _ (head_digits ds rest c hc) rfl⟩
      exact (exponent_of_no_sign _ hsign).trans (bind_ok someDigits _ _ _ _ hrun)
  | some isMinus =>
      cases isMinus with
      | true => exact bind_ok someDigits (fun ds => pure (some (-digitsValue ds : Int))) _ _ _ hrun
      | false => exact bind_ok someDigits (fun ds => pure (some (digitsValue ds : Int))) _ _ _ hrun

end Power

namespace Numeral

variable (n : Numeral) (rest : List Char)

/-- Where a part of a numeral ends, no digit follows. -/
theorem head_powerChars (hrest : IsEnded rest) (c : Char)
    (hc : (n.powerChars ++ rest).head? = some c) : isDigit c = false ∧ c ≠ '.' := by
  rcases n with ⟨isNegative, whole, lead, fraction, power⟩
  cases power with
  | none =>
      have hpoint := eq_false_of_isEnded (· = '.') rfl rest hrest c hc
      exact ⟨not_digit_of_isEnded rest hrest c hc, by simpa using hpoint⟩
  | some p =>
      have hletter : c = if p.isCapital then 'E' else 'e' := (Option.some.inj hc).symm
      cases hcapital : p.isCapital <;> simp_all [isDigit]

theorem head_fractionChars (hrest : IsEnded rest) (c : Char)
    (hc : (n.fractionChars ++ (n.powerChars ++ rest)).head? = some c) : isDigit c = false := by
  unfold fractionChars at hc
  cases hfraction : n.fraction with
  | none =>
      rw [hfraction] at hc
      exact (n.head_powerChars rest hrest c hc).1
  | some ds =>
      rw [hfraction] at hc
      have hpoint : c = '.' := (Option.some.inj hc).symm
      rw [hpoint]
      rfl

theorem wholeDigits_whole (hrest : ∀ c, rest.head? = some c → isDigit c = false) :
    wholeDigits (n.whole.1 ++ rest) = .ok (n.whole.1, rest) := by
  rcases n with ⟨isNegative, ⟨ds, hsome, hdigits⟩, lead, fraction, power⟩
  rw [wholeDigits, bind_ok digits _ _ _ _ (digits_run ds rest hdigits hrest)]
  refine congrFun (?_ : _ = (pure ds : Reader (List Char))) rest
  split
  · exact absurd rfl hsome
  · rfl
  -- A zero in front of other digits is no numeral.
  · next hzero more _ =>
      rcases lead with hlead | hlead
      · simp_all
      · simp_all
  · rfl

theorem fraction?_chars (hrest : IsEnded rest) :
    fraction? (n.fractionChars ++ (n.powerChars ++ rest)) =
      .ok (n.fraction.map (·.1), n.powerChars ++ rest) := by
  have hstop := n.head_powerChars rest hrest
  unfold fractionChars
  cases n.fraction with
  | none => exact fraction?_of_no_point _ (fun c hc => (hstop c hc).2)
  | some ds =>
      have hrun := someDigits_run ds (n.powerChars ++ rest) (fun c hc => (hstop c hc).1)
      exact bind_ok someDigits (fun ds => pure (some ds)) _ _ _ hrun

theorem power?_chars (hrest : IsEnded rest) :
    power? (n.powerChars ++ rest) = .ok (n.power.map (·.exponent), rest) := by
  have hdigit := not_digit_of_isEnded rest hrest
  unfold powerChars
  cases n.power with
  | none =>
      refine power?_of_no_letter rest (fun c hc => ?_)
      have hletter := eq_false_of_isEnded (fun c => c = 'e' || c = 'E') rfl rest hrest c hc
      simpa using hletter
  | some p =>
      have hexponent := p.exponent_signed rest hdigit
      dsimp only
      rw [Power.chars]
      cases p.isCapital with
      | true => exact hexponent
      | false => exact hexponent

/-! ## Numerals -/

/-- What is made of a numeral behind its sign. -/
theorem unsigned_chars (hrest : IsEnded rest) :
    unsigned n.isNegative (n.unsignedChars ++ rest) = n.reading.map (·, rest) := by
  have hwhole := n.wholeDigits_whole _ (n.head_fractionChars rest hrest)
  rw [unsignedChars, List.append_assoc, List.append_assoc, unsigned,
    bind_ok wholeDigits _ _ _ _ hwhole]
  unfold reading
  rcases absorb 0 n.whole.1 with ⟨whole, left⟩
  dsimp only
  rw [bind_ok fraction? _ _ _ _ (n.fraction?_chars rest hrest)]
  have hfraction : (n.fraction.map (·.1)).getD [] = n.fractionDigits := rfl
  simp only [hfraction]
  rcases absorb whole n.fractionDigits with ⟨significand, ignored⟩
  dsimp only
  rw [bind_ok power? _ _ _ _ (n.power?_chars rest hrest), Option.isSome_map, Option.isSome_map]
  -- What is left is the last step, which does not look at the text.
  change (liftM (assemble _ _ _ _) : Reader Number) rest = _
  cases assemble n.isNegative significand _ _ with
  | ok x => rfl
  | error fault => rfl

/-- A digit is in front of a numeral, if there is no sign. -/
theorem head_unsignedChars (c : Char) (hc : (n.unsignedChars ++ rest).head? = some c) :
    isDigit c = true := by
  rw [unsignedChars, List.append_assoc] at hc
  exact head_digits n.whole _ c hc

/-- What is made of a numeral. -/
theorem number_chars (hrest : IsEnded rest) :
    number (n.chars ++ rest) = n.reading.map (·, rest) := by
  have hunsigned := n.unsigned_chars rest hrest
  unfold chars
  cases hsign : n.isNegative with
  | true =>
      rw [hsign] at hunsigned
      exact hunsigned
  | false =>
      rw [hsign] at hunsigned
      have hminus : ∀ c, (n.unsignedChars ++ rest).head? = some c → c ≠ '-' := fun c hc =>
        ne_of_isDigit c _ (n.head_unsignedChars rest c hc) rfl
      exact (number_of_no_minus _ hminus).trans hunsigned

/-- A numeral starts with a sign or a digit. -/
theorem exists_head : ∃ c more, n.chars = c :: more ∧ (c = '-' || isDigit c) = true := by
  unfold chars
  cases n.isNegative with
  | true => exact ⟨'-', n.unsignedChars, rfl, rfl⟩
  | false =>
      rcases n with ⟨isNegative, ⟨ds, hsome, hdigits⟩, lead, fraction, power⟩
      cases ds with
      | nil => exact absurd rfl hsome
      | cons d ds =>
          refine ⟨d, _, rfl, ?_⟩
          rw [hdigits d List.mem_cons_self, Bool.or_true]

/-- A numeral shows that it is one. -/
theorem exists_start :
    ∃ c, (c = '-' || isDigit c) = true ∧ start (n.chars ++ rest) = .ok (c, n.chars ++ rest) := by
  rcases n.exists_head with ⟨c, more, hchars, hc⟩
  refine ⟨c, hc, ?_⟩
  rw [hchars]
  exact start_cons c _ (not_blank_of_lead c hc)

end Numeral

/-! ## Numerals that are skipped -/

/-- Skips the power of ten behind its `e`. -/
def skipExponent : Reader Unit := do
  match ← peek? with
  | some '+' | some '-' => do
    advance
    skipDigits
  | _ => skipDigits

/-- Skips the power of ten behind a number. -/
def skipPower : Reader Unit := do
  match ← peek? with
  | some 'e' | some 'E' =>
    advance
    skipExponent
  | _ => return ()

/-- Skips what is behind the whole part of a number. -/
def skipBehind : Reader Unit := do
  if (← peek?) = some '.' then
    advance
    skipDigits
  skipPower

/-- Skips a number behind its sign. -/
def skipUnsigned : Reader Unit := do
  match ← digits with
  | [] => throw .invalidNumber
  | '0' :: _ :: _ => throw .invalidNumber
  | _ => skipBehind

theorem skipNumber_of_no_minus (cs : List Char) (hminus : ∀ c, cs.head? = some c → c ≠ '-') :
    skipNumber cs = skipUnsigned cs := by
  cases cs with
  | nil => rfl
  | cons c cs =>
      have hsign : some c ≠ some '-' := fun hsame => hminus c rfl (Option.some.inj hsame)
      rw [skipNumber, bind_ok peek? _ (c :: cs) (c :: cs) (some c) rfl]
      simp only [if_neg hsign]
      rfl

/-- An exponent that is skipped is followed to its last digit. -/
theorem Power.skipExponent_signed (p : Power) (rest : List Char)
    (hrest : ∀ c, rest.head? = some c → isDigit c = false) :
    skipExponent (p.signed ++ rest) = .ok ((), rest) := by
  rcases p with ⟨isCapital, sign, ds⟩
  have hrun := skipDigits_run ds rest hrest
  cases sign with
  | none =>
      have hnone : Power.signed ⟨isCapital, none, ds⟩ = ds.1 := rfl
      rw [hnone, skipExponent, bind_ok peek? _ _ _ _ rfl, ← hrun]
      refine congrFun ?_ _
      split
      · next hc => exact absurd (head_digits ds rest _ hc) (by decide)
      · next hc => exact absurd (head_digits ds rest _ hc) (by decide)
      · rfl
  | some isMinus =>
      cases isMinus with
      | true => exact hrun
      | false => exact hrun

namespace Numeral

variable (n : Numeral) (rest : List Char)

theorem skipPower_powerChars (hrest : IsEnded rest) :
    skipPower (n.powerChars ++ rest) = .ok ((), rest) := by
  have hdigit := not_digit_of_isEnded rest hrest
  unfold powerChars
  cases n.power with
  | some p =>
      have hexponent := p.skipExponent_signed rest hdigit
      dsimp only
      rw [Power.chars]
      cases p.isCapital with
      | true => exact hexponent
      | false => exact hexponent
  | none =>
      cases rest with
      | nil => rfl
      | cons c rest =>
          have hletter := eq_false_of_isEnded (fun c => c = 'e' || c = 'E') rfl _ hrest c rfl
          rw [List.nil_append, skipPower, bind_ok peek? _ (c :: rest) (c :: rest) (some c) rfl]
          refine congrFun (?_ : _ = (pure () : Reader Unit)) (c :: rest)
          split
          · next hsame => simp [Option.some.inj hsame] at hletter
          · next hsame => simp [Option.some.inj hsame] at hletter
          · rfl

theorem skipBehind_chars (hrest : IsEnded rest) :
    skipBehind (n.fractionChars ++ (n.powerChars ++ rest)) = .ok ((), rest) := by
  have hstop := n.head_powerChars rest hrest
  have hpower := n.skipPower_powerChars rest hrest
  unfold fractionChars
  cases n.fraction with
  | none =>
      have hpoint : (n.powerChars ++ rest).head? ≠ some '.' := fun hc => (hstop _ hc).2 rfl
      rw [List.nil_append, skipBehind, bind_ok peek? _ _ _ _ rfl, if_neg hpoint]
      exact hpower
  | some ds =>
      have hrun := skipDigits_run ds (n.powerChars ++ rest) (fun c hc => (hstop c hc).1)
      exact (bind_ok skipDigits (fun _ => skipPower) _ _ _ hrun).trans hpower

/-- A numeral that is skipped is followed to its end, whatever its size. -/
theorem skipNumber_chars (hrest : IsEnded rest) :
    skipNumber (n.chars ++ rest) = .ok ((), rest) := by
  have hbehind := n.skipBehind_chars rest hrest
  have hunsigned : skipUnsigned (n.unsignedChars ++ rest) = .ok ((), rest) := by
    have hrun := digits_run n.whole.1 (n.fractionChars ++ (n.powerChars ++ rest)) n.whole.2.2
      (n.head_fractionChars rest hrest)
    rw [unsignedChars, List.append_assoc, List.append_assoc, skipUnsigned,
      bind_ok digits _ _ _ _ hrun]
    rw [← hbehind]
    refine congrFun ?_ _
    split
    · next hnil => exact absurd hnil n.whole.2.1
    · next hlong => rcases n.lead with hlead | hlead <;> simp_all
    · rfl
  unfold chars
  cases n.isNegative with
  | true => exact hunsigned
  | false =>
      have hminus : ∀ c, (n.unsignedChars ++ rest).head? = some c → c ≠ '-' := fun c hc =>
        ne_of_isDigit c _ (n.head_unsignedChars rest c hc) rfl
      exact (skipNumber_of_no_minus _ hminus).trans hunsigned

end Numeral

/-! ## What is read as a number -/

namespace Reader

variable {α β : Type}

/-- What a reader has taken is spelled like this. -/
def Takes (reader : Reader α) (spelled : α → List Char → Prop) : Prop :=
  ∀ cs a rest, reader cs = .ok (a, rest) → ∃ front, cs = front ++ rest ∧ spelled a front

theorem takes_pure (a : α) (spelled : α → List Char → Prop) (ha : spelled a []) :
    Takes (pure a : Reader α) spelled := by
  intro cs b rest hread
  rw [pure_apply] at hread
  cases hread
  exact ⟨[], rfl, ha⟩

theorem takes_bind {reader : Reader α} {next : α → Reader β} {first : α → List Char → Prop}
    {spelled : β → List Char → Prop} (hreader : Takes reader first)
    (hnext : ∀ a front, first a front → Takes (next a) fun b more => spelled b (front ++ more)) :
    Takes (reader >>= next) spelled := by
  intro cs b rest hread
  cases hfirst : reader cs with
  | error fault =>
      rw [bind_error reader next cs fault hfirst] at hread
      cases hread
  | ok read =>
      -- What the first reader has left is what the second one has taken from.
      rw [bind_ok reader next cs read.2 read.1 hfirst] at hread
      rcases hreader cs read.1 read.2 hfirst with ⟨front, hcs, hfront⟩
      rcases hnext read.1 front hfront read.2 b rest hread with ⟨more, hmore, hspelled⟩
      exact ⟨front ++ more, by rw [hcs, hmore, List.append_assoc], hspelled⟩

theorem takes_lead {reader idle : Reader α} {next : Char → Reader α} {isLead : Char → Bool}
    (hlooks : Leads reader idle next isLead) {spelled : α → List Char → Prop}
    (hidle : Takes idle spelled)
    (hnext : ∀ c, isLead c = true → Takes (next c) fun a more => spelled a (c :: more)) :
    Takes reader spelled := by
  intro cs a rest hread
  cases cs with
  | nil =>
      rw [hlooks.without [] nofun] at hread
      exact hidle [] a rest hread
  | cons c cs =>
      cases hc : isLead c with
      | false =>
          have hhead : ∀ d, (c :: cs).head? = some d → isLead d = false := by
            intro d hd
            rw [← Option.some.inj hd]
            exact hc
          rw [hlooks.without _ hhead] at hread
          exact hidle (c :: cs) a rest hread
      | true =>
          rw [hlooks.behind c cs hc] at hread
          rcases hnext c hc cs a rest hread with ⟨more, hcs, hspelled⟩
          exact ⟨c :: more, by rw [hcs]; rfl, hspelled⟩

theorem takes_assembled (result : Except Fault α) (spelled : α → List Char → Prop)
    (hspelled : ∀ a, spelled a []) : Takes (liftM result : Reader α) spelled := by
  cases result with
  | ok a => exact takes_pure a spelled (hspelled a)
  | error fault => exact nofun

theorem takes_digits : Takes digits fun ds front => ds = front ∧ ∀ c ∈ front, isDigit c = true := by
  intro cs ds rest hread
  cases hread
  exact ⟨_, List.takeWhile_append_dropWhile.symm, rfl, List.all_eq_true.1 List.all_takeWhile⟩

theorem takes_someDigits : Takes someDigits fun _ front => ∃ ds : Digits, front = ds.1 := by
  refine takes_bind takes_digits (fun ds front hfront => ?_)
  rcases hfront with ⟨rfl, hdigits⟩
  split
  · exact nofun
  · next hsome => exact takes_pure _ _ ⟨⟨ds, hsome, hdigits⟩, List.append_nil ds⟩

theorem takes_wholeDigits : Takes wholeDigits fun _ front =>
    ∃ ds : Digits, front = ds.1 ∧ (ds.1 = ['0'] ∨ ds.1.head? ≠ some '0') := by
  refine takes_bind takes_digits (fun ds front hfront => ?_)
  rcases hfront with ⟨rfl, hdigits⟩
  split
  · exact nofun
  · exact takes_pure _ _ ⟨⟨['0'], by simp, hdigits⟩, rfl, .inl rfl⟩
  · exact nofun
  · next hsome hzero hlong =>
      refine takes_pure _ _ ⟨⟨ds, hsome, hdigits⟩, List.append_nil ds, .inr fun hhead => ?_⟩
      -- Digits with a zero in front are that zero or were refused.
      cases ds with
      | nil => cases hhead
      | cons d more =>
          cases Option.some.inj hhead
          exact hlong more rfl

/-- The digits behind a point are those of some numeral. -/
theorem takes_fraction? : Takes fraction? fun _ front =>
    ∃ fraction : Option Digits, front = match fraction with
      | some ds => '.' :: ds.1
      | none => [] := by
  refine takes_lead leads_fraction? (takes_pure _ _ ⟨none, rfl⟩) (fun c hc => ?_)
  have hpoint : c = '.' := by simpa using hc
  refine takes_bind takes_someDigits (fun _ front hfront => ?_)
  rcases hfront with ⟨ds, rfl⟩
  exact takes_pure _ _ ⟨some ds, by rw [hpoint, List.append_nil]⟩

theorem takes_exponent (isCapital : Bool) : Takes exponent fun _ front =>
    ∃ p : Power, p.isCapital = isCapital ∧ front = p.signed := by
  refine takes_lead leads_exponent ?_ (fun c hc => ?_)
  · refine takes_bind takes_someDigits (fun _ front hfront => ?_)
    rcases hfront with ⟨ds, rfl⟩
    exact takes_pure _ _ ⟨⟨isCapital, none, ds⟩, rfl, List.append_nil _⟩
  · refine takes_bind takes_someDigits (fun _ front hfront => ?_)
    rcases hfront with ⟨ds, rfl⟩
    have hsign : c = '-' ∨ c = '+' := by simpa using hc
    rcases hsign with rfl | rfl
    · exact takes_pure _ _ ⟨⟨isCapital, some true, ds⟩, rfl, by rw [List.append_nil]; rfl⟩
    · exact takes_pure _ _ ⟨⟨isCapital, some false, ds⟩, rfl, by rw [List.append_nil]; rfl⟩

theorem takes_power? : Takes power? fun _ front =>
    ∃ power : Option Power, front = match power with
      | some p => p.chars
      | none => [] := by
  refine takes_lead leads_power? (takes_pure _ _ ⟨none, rfl⟩) (fun c hc cs a rest hread => ?_)
  rcases takes_exponent (c = 'E') cs a rest hread with ⟨front, hcs, p, hcapital, rfl⟩
  refine ⟨p.signed, hcs, some p, ?_⟩
  have hletter : c = 'e' ∨ c = 'E' := by simpa using hc
  rcases hletter with rfl | rfl <;> simp [Power.chars, hcapital]

theorem takes_unsigned (isNegative : Bool) : Takes (unsigned isNegative) fun _ front =>
    ∃ n : Numeral, n.isNegative = isNegative ∧ front = n.unsignedChars := by
  refine takes_bind takes_wholeDigits (fun ds front hwhole => ?_)
  rcases hwhole with ⟨whole, rfl, hlead⟩
  cases absorb 0 ds with
  | mk significand left =>
      refine takes_bind takes_fraction? (fun read front hfraction => ?_)
      rcases hfraction with ⟨fraction, rfl⟩
      cases absorb significand (read.getD []) with
      | mk significand ignored =>
          refine takes_bind takes_power? (fun _ more hpower => ?_)
          rcases hpower with ⟨power, rfl⟩
          -- The last step takes nothing, so the three parts are all there is.
          refine takes_assembled _ _ fun x => ⟨⟨isNegative, whole, hlead, fraction, power⟩, rfl, ?_⟩
          rw [List.append_nil]
          rfl

theorem takes_number : Takes number fun _ front => ∃ n : Numeral, front = n.chars := by
  refine takes_lead leads_number (fun cs x rest hread => ?_) (fun c hc cs x rest hread => ?_)
  · rcases takes_unsigned false cs x rest hread with ⟨front, hcs, n, hsign, rfl⟩
    exact ⟨_, hcs, n, by simp [Numeral.chars, hsign]⟩
  · have hminus : c = '-' := by simpa using hc
    rcases takes_unsigned true cs x rest hread with ⟨front, hcs, n, hsign, rfl⟩
    exact ⟨_, hcs, n, by simp [Numeral.chars, hsign, hminus]⟩

end Reader

/-- What is read as a number is spelled as a numeral. -/
theorem numeral_of_number (cs : List Char) (x : Number) (hread : number cs = .ok (x, [])) :
    ∃ n : Numeral, cs = n.chars ∧ n.reading = .ok x := by
  rcases takes_number cs x [] hread with ⟨_, hcs, n, rfl⟩
  rw [List.append_nil] at hcs
  refine ⟨n, hcs, ?_⟩
  have hchars := n.number_chars [] isEnded_nil
  rw [List.append_nil, ← hcs, hread] at hchars
  cases hreading : n.reading with
  | error fault =>
      rw [hreading] at hchars
      cases hchars
  | ok y =>
      rw [hreading] at hchars
      cases hchars
      rfl

end Descent.Json
