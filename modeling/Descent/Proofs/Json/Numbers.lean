import Descent.Proofs.Json.Strings

/-!
# Reading Back: Numbers

A number is the only kind of value that does not say itself where it ends, so
what follows its text matters: another digit, a point or a power of ten would
become part of it. `Extends` is what a reader needs for its part of a number:
where it succeeds on a text it succeeds with the rest of a document behind
the text, and leaves that rest. It passes from the parts of a number to the
whole.

So it is enough that a number is read back from its text alone, and that is
what `Number.ReadsBack` asks for. Every integer of 64 bits is, which also
makes lines and columns read back. Whether a double is depends on the
shortest decimal that was found for it.

## Main definitions

* `Number.ReadsBack`: A number is read back from its text.
* `Extends`: A reader does not mind the rest of a document.
* `Leads`: A reader looks for a character in front.
* `unsigned`: The part of a number behind its sign.

## Theorems

* `extends_number`: Reading a number does not mind what follows.
* `readsBack_integer`: All integers of 64 bits are read back.
* `reads_count`: A natural number of 64 bits is read back.
-/

namespace Descent.Json

/-- A number is read back from its text. -/
def Number.ReadsBack (n : Number) : Prop :=
  Reader.number n.text.toList = .ok (n, [])

namespace Reader

variable {α β : Type}

/-! ## What follows a number -/

/-- Where a reader succeeds it does so with the rest of a document behind the
    text as well, and leaves the rest. -/
def Extends (reader : Reader α) : Prop :=
  ∀ cs a left rest, IsEnded rest → reader cs = .ok (a, left) →
    reader (cs ++ rest) = .ok (a, left ++ rest)

theorem extends_pure (a : α) : Extends (pure a : Reader α) := by
  intro cs b left rest _ hread
  rw [pure_apply] at hread ⊢
  cases hread
  rfl

theorem extends_throw (fault : Fault) : Extends (throw fault : Reader α) := nofun

theorem extends_bind (reader : Reader α) (next : α → Reader β) (hreader : Extends reader)
    (hnext : ∀ a, Extends (next a)) : Extends (reader >>= next) := by
  intro cs b left rest hrest hread
  cases hfirst : reader cs with
  | error fault =>
      rw [bind_error reader next cs fault hfirst] at hread
      cases hread
  | ok read =>
      -- The second reader goes on where the first one stopped, and the rest is
      -- still there.
      rw [bind_ok reader next cs read.2 read.1 hfirst] at hread
      rw [bind_ok reader next _ _ _ (hreader cs read.1 read.2 rest hrest hfirst)]
      exact hnext read.1 read.2 b left rest hrest hread

theorem not_digit_of_isEnded (rest : List Char) (hrest : IsEnded rest) (c : Char)
    (hc : rest.head? = some c) : isDigit c = false :=
  eq_false_of_isEnded isDigit rfl rest hrest c hc

theorem digits_append (cs rest : List Char) (hrest : IsEnded rest) :
    digits (cs ++ rest) = .ok (cs.takeWhile isDigit, cs.dropWhile isDigit ++ rest) := by
  induction cs with
  | nil =>
      cases rest with
      | nil => rfl
      | cons c rest =>
          -- What follows starts with no digit, so nothing of it is taken.
          have hdigit : isDigit c = false := not_digit_of_isEnded _ hrest c rfl
          simp only [digits, List.nil_append, List.takeWhile_cons, List.dropWhile_cons, hdigit]
          rfl
  | cons c cs ih =>
      simp only [digits, List.cons_append, Except.ok.injEq, Prod.mk.injEq] at ih ⊢
      rw [List.takeWhile_cons, List.dropWhile_cons, List.takeWhile_cons, List.dropWhile_cons]
      cases isDigit c with
      | false => exact ⟨rfl, rfl⟩
      | true =>
          simp only [if_true]
          exact ⟨congrArg (c :: ·) ih.1, ih.2⟩

theorem extends_digits : Extends digits := by
  intro cs a left rest hrest hread
  rw [digits_append cs rest hrest]
  cases hread
  rfl

theorem extends_wholeDigits : Extends wholeDigits := by
  refine extends_bind _ _ extends_digits (fun ds => ?_)
  split
  · exact nofun
  · exact extends_pure _
  · exact extends_throw _
  · exact extends_pure _

theorem extends_someDigits : Extends someDigits := by
  refine extends_bind _ _ extends_digits (fun ds => ?_)
  split
  · exact nofun
  · exact extends_pure _

/-- A reader that looks for a character that may lead its text. Behind such a
    character it goes on with `next`, and without one it is `idle`. -/
structure Leads (reader idle : Reader α) (next : Char → Reader α) (isLead : Char → Bool) :
    Prop where
  without : ∀ cs, (∀ c, cs.head? = some c → isLead c = false) → reader cs = idle cs
  behind : ∀ c cs, isLead c = true → reader (c :: cs) = next c cs

/-- None of the characters that may lead a text may follow a value. -/
theorem extends_lead {reader idle : Reader α} {next : Char → Reader α} {isLead : Char → Bool}
    (hlooks : Leads reader idle next isLead) (hlead : endings.all (!isLead ·) = true)
    (hextends : Extends idle) (hleads : ∀ c, Extends (next c)) : Extends reader := by
  intro cs a left rest hended hread
  cases cs with
  | nil =>
      -- The text is used up, and what follows does not start with a lead
      -- either.
      have hrest : ∀ c, ([] ++ rest).head? = some c → isLead c = false :=
        eq_false_of_isEnded isLead hlead rest hended
      rw [hlooks.without _ hrest]
      rw [hlooks.without [] nofun] at hread
      exact hextends [] a left rest hended hread
  | cons c cs =>
      rw [List.cons_append]
      cases hc : isLead c with
      | false =>
          have hhead : ∀ d more, (c :: more).head? = some d → isLead d = false := by
            intro d more hd
            rw [← Option.some.inj hd]
            exact hc
          rw [hlooks.without _ fun d => hhead d _] at hread ⊢
          exact hextends (c :: cs) a left rest hended hread
      | true =>
          rw [hlooks.behind c _ hc] at hread ⊢
          exact hleads c cs a left rest hended hread

/-- A number without a point has no digits behind it. -/
theorem fraction?_of_no_point (cs : List Char) (hcs : ∀ c, cs.head? = some c → c ≠ '.') :
    fraction? cs = .ok (none, cs) := by
  cases cs with
  | nil => rfl
  | cons c cs =>
      rw [fraction?, bind_ok peek? _ (c :: cs) (c :: cs) (some c) rfl]
      refine congrFun (?_ : _ = (pure none : Reader (Option (List Char)))) (c :: cs)
      split
      · next hsame => exact absurd (Option.some.inj hsame) (hcs c rfl)
      · rfl

theorem leads_fraction? :
    Leads fraction? (pure none) (fun _ => someDigits >>= fun ds => pure (some ds))
      (· = '.') := by
  constructor
  · intro cs hcs
    exact fraction?_of_no_point cs (by simpa using hcs)
  · intro c cs hc
    have hpoint : c = '.' := by simpa using hc
    rw [hpoint]
    rfl

theorem extends_fraction? : Extends fraction? :=
  extends_lead leads_fraction? rfl (extends_pure none) fun _ =>
    extends_bind _ _ extends_someDigits fun _ => extends_pure _

/-- The power of ten behind its `e`. -/
def exponent : Reader (Option Int) := do
  match ← peek? with
  | some '-' => do
    advance
    return some (-digitsValue (← someDigits))
  | some '+' => do
    advance
    return some (digitsValue (← someDigits))
  | _ => return some (digitsValue (← someDigits))

/-- An exponent without a sign is made of digits alone. -/
theorem exponent_of_no_sign (cs : List Char)
    (hcs : ∀ c, cs.head? = some c → c ≠ '-' ∧ c ≠ '+') :
    exponent cs = (someDigits >>= fun ds => pure (some (digitsValue ds : Int))) cs := by
  cases cs with
  | nil => rfl
  | cons c cs =>
      rw [exponent, bind_ok peek? _ (c :: cs) (c :: cs) (some c) rfl]
      refine congrFun ?_ (c :: cs)
      split
      · next hsame => exact absurd (Option.some.inj hsame) (hcs c rfl).1
      · next hsame => exact absurd (Option.some.inj hsame) (hcs c rfl).2
      · rfl

theorem leads_exponent :
    Leads exponent (someDigits >>= fun ds => pure (some (digitsValue ds : Int)))
      (fun c => someDigits >>= fun ds =>
        pure (some (if c = '-' then -digitsValue ds else digitsValue ds : Int)))
      (fun c => c = '-' || c = '+') := by
  constructor
  · intro cs hcs
    exact exponent_of_no_sign cs (by simpa using hcs)
  · intro c cs hc
    have hsign : c = '-' ∨ c = '+' := by simpa using hc
    rcases hsign with rfl | rfl
    · rfl
    · rfl

theorem extends_exponent : Extends exponent := by
  have hdigits : ∀ f : List Char → Option Int, Extends (someDigits >>= fun ds => pure (f ds)) :=
    fun f => extends_bind _ _ extends_someDigits (fun _ => extends_pure _)
  exact extends_lead leads_exponent rfl (hdigits _) (fun _ => hdigits _)

/-- A number without the letter has no power of ten. -/
theorem power?_of_no_letter (cs : List Char)
    (hcs : ∀ c, cs.head? = some c → c ≠ 'e' ∧ c ≠ 'E') : power? cs = .ok (none, cs) := by
  cases cs with
  | nil => rfl
  | cons c cs =>
      rw [power?, bind_ok peek? _ (c :: cs) (c :: cs) (some c) rfl]
      refine congrFun (?_ : _ = (pure none : Reader (Option Int))) (c :: cs)
      split
      · next hsame => exact absurd (Option.some.inj hsame) (hcs c rfl).1
      · next hsame => exact absurd (Option.some.inj hsame) (hcs c rfl).2
      · rfl

theorem leads_power? :
    Leads power? (pure none) (fun _ => exponent) (fun c => c = 'e' || c = 'E') := by
  constructor
  · intro cs hcs
    exact power?_of_no_letter cs (by simpa using hcs)
  · intro c cs hc
    have hletter : c = 'e' ∨ c = 'E' := by simpa using hc
    rcases hletter with rfl | rfl
    · rfl
    · rfl

theorem extends_power? : Extends power? :=
  extends_lead leads_power? rfl (extends_pure none) fun _ => extends_exponent

/-! ## Numbers -/

/-- The part of a number behind its sign. -/
def unsigned (isNegative : Bool) : Reader Number := do
  let (whole, left) := absorb 0 (← wholeDigits)
  let fraction ← fraction?
  let (significand, ignored) := absorb whole (fraction.getD [])
  let power ← power?
  let used : Int := (fraction.getD []).length - ignored.length
  assemble isNegative significand (left.length - used + power.getD 0)
    (fraction.isSome || power.isSome || !left.isEmpty)

theorem number_of_no_minus (cs : List Char) (hminus : ∀ c, cs.head? = some c → c ≠ '-') :
    number cs = unsigned false cs := by
  cases cs with
  | nil => rfl
  | cons c cs =>
      -- The test for a sign fails, so nothing is taken in front of the digits.
      have hsign : some c ≠ some '-' := fun hsame => hminus c rfl (Option.some.inj hsame)
      rw [number, bind_ok peek? _ (c :: cs) (c :: cs) (some c) rfl]
      simp only [if_neg hsign, decide_eq_false hsign]
      rfl

/-- The last step of a number does not look at the text. -/
theorem extends_assembled (result : Except Fault Number) :
    Extends (liftM result : Reader Number) := by
  cases result with
  | ok n => exact extends_pure n
  | error fault => exact extends_throw fault

theorem extends_unsigned (isNegative : Bool) : Extends (unsigned isNegative) := by
  refine extends_bind _ _ extends_wholeDigits (fun ds => ?_)
  cases absorb 0 ds with
  | mk whole left =>
      refine extends_bind _ _ extends_fraction? (fun fraction => ?_)
      cases absorb whole (fraction.getD []) with
      | mk significand ignored =>
          exact extends_bind _ _ extends_power? (fun _ => extends_assembled _)

theorem leads_number : Leads number (unsigned false) (fun _ => unsigned true) (· = '-') := by
  constructor
  · intro cs hcs
    exact number_of_no_minus cs fun c hc => by simpa using hcs c hc
  · intro c cs hc
    have hminus : c = '-' := by simpa using hc
    rw [hminus]
    rfl

/-- A number that is read from its text is read with the rest of a document
    behind it. -/
theorem extends_number : Extends number :=
  extends_lead leads_number rfl (extends_unsigned false) fun _ => extends_unsigned true

/-! ## Integers -/

/-- All of a text of digits is taken. -/
theorem digits_of_all (ds : List Char) (hds : ∀ c ∈ ds, isDigit c = true) :
    digits ds = .ok (ds, []) := by
  have htake := @List.takeWhile_append_of_pos _ isDigit ds [] hds
  have hdrop := @List.dropWhile_append_of_pos _ isDigit ds [] hds
  rw [List.append_nil, List.takeWhile_nil, List.append_nil] at htake
  rw [List.append_nil, List.dropWhile_nil] at hdrop
  rw [digits, htake, hdrop]

/-- Only zero is written with a zero in front. -/
theorem eq_zero_of_head_toDigits (n : Nat) (hhead : (Nat.toDigits 10 n).head? = some '0') :
    n = 0 := by
  induction n using Nat.strongRecOn with
  | ind n ih =>
      by_cases hsmall : n < 10
      · rw [Nat.toDigits_of_lt_base hsmall] at hhead
        exact Nat.digitChar_eq_zero.1 (Option.some.inj hhead)
      · -- The first digit is the first digit of a tenth of the number.
        have hsplit := Nat.toDigits_of_base_le (b := 10) (n := n) (by decide) (by omega)
        have hfirst : (Nat.toDigits 10 (n / 10)).head? = some '0' := by
          cases hdigits : Nat.toDigits 10 (n / 10) with
          | nil => exact absurd hdigits Nat.toDigits_ne_nil
          | cons d ds =>
              rw [hsplit, hdigits] at hhead
              exact hhead
        have hzero : n / 10 = 0 := ih (n / 10) (by omega) hfirst
        omega

theorem wholeDigits_toDigits (n : Nat) :
    wholeDigits (Nat.toDigits 10 n) = .ok (Nat.toDigits 10 n, []) := by
  have hall : ∀ c ∈ Nat.toDigits 10 n, isDigit c = true := fun c hc =>
    Nat.isDigit_of_mem_toDigits (by decide) (by decide) hc
  have hzero := eq_zero_of_head_toDigits n
  have hdigits := digits_of_all _ hall
  rw [wholeDigits, bind_ok digits _ _ _ _ hdigits]
  refine congrFun (?_ : _ = (pure (Nat.toDigits 10 n) : Reader (List Char))) []
  split
  · next hnil => exact absurd hnil Nat.toDigits_ne_nil
  · next hone => rw [hone]
  · next more hmany hlong =>
      -- A longer number does not start with a zero.
      rw [hlong] at hzero
      have hn : n = 0 := hzero rfl
      rw [hn, Nat.toDigits_zero] at hlong
      exact absurd (List.cons.inj hlong).2.symm hmany
  · rfl

theorem le_ofDigitChars (ds : List Char) (significand : Nat) :
    significand ≤ Nat.ofDigitChars 10 ds significand := by
  induction ds generalizing significand with
  | nil => exact Nat.le_refl _
  | cons d ds ih =>
      rw [Nat.ofDigitChars_cons]
      have hrest := ih (10 * significand + (d.toNat - '0'.toNat))
      omega

/-- Digits are all absorbed if their value fits 64 bits. -/
theorem absorb_of_fits (ds : List Char) (significand : Nat)
    (hfits : Nat.ofDigitChars 10 ds significand < 0x10000000000000000) :
    absorb significand ds = (Nat.ofDigitChars 10 ds significand, []) := by
  induction ds generalizing significand with
  | nil => rfl
  | cons d ds ih =>
      rw [Nat.ofDigitChars_cons, Nat.mul_comm] at hfits ⊢
      -- A prefix has no greater value than the whole, so the test holds at
      -- every digit.
      have hnext := le_ofDigitChars ds (significand * 10 + (d.toNat - '0'.toNat))
      rw [absorb, if_pos (by omega)]
      exact ih _ hfits

/-- The digits of a natural number with a sign in front are an integer, save
    for zero with a minus sign. -/
theorem unsigned_toDigits (isNegative : Bool) (m : Nat) (n : Int) (fits : FitsWord n)
    (hn : n = if isNegative then -(m : Int) else m) (hzero : isNegative = true → m ≠ 0) :
    unsigned isNegative (Nat.toDigits 10 m) = .ok (.integer n fits, []) := by
  have hm : m < 0x10000000000000000 := by
    cases isNegative with
    | false =>
        simp only [Bool.false_eq_true, if_false] at hn
        omega
    | true =>
        simp only [if_true] at hn
        omega
  have habsorb : absorb 0 (Nat.toDigits 10 m) = (m, []) := by
    rw [absorb_of_fits _ 0 (by rwa [Nat.ofDigitChars_ten_toDigits]),
      Nat.ofDigitChars_ten_toDigits]
  have hassemble : assemble isNegative m 0 false = .ok (.integer n fits) := by
    unfold assemble
    subst hn
    have hminus : (!false && !(isNegative && decide (m = 0))) = true := by
      cases isNegative with
      | false => rfl
      | true => simpa using hzero rfl
    simp only [dif_pos fits, hminus]
    rfl
  -- All digits are taken, and neither a point nor a power of ten follows.
  rw [unsigned, bind_ok wholeDigits _ _ _ _ (wholeDigits_toDigits m)]
  simp only [habsorb]
  rw [bind_ok fraction? _ [] [] none rfl]
  simp only [Option.getD_none, absorb]
  rw [bind_ok power? _ [] [] none rfl]
  simp only [Option.isSome_none, List.isEmpty_nil, List.length_nil, Option.getD_none,
    Bool.or_false, Bool.not_true, Int.add_zero, Int.sub_self]
  exact congrArg (fun r => (liftM r : Reader Number) []) hassemble

/-- All integers of 64 bits are read back. -/
theorem readsBack_integer (n : Int) (fits : FitsWord n) : (Number.integer n fits).ReadsBack := by
  have htext : (Number.integer n fits).text = n.repr := Int.toString_eq_repr
  unfold Number.ReadsBack
  rw [htext, Int.repr_eq_if]
  by_cases hsign : 0 ≤ n
  · rw [if_pos hsign, Nat.toList_repr, number_of_no_minus]
    · exact unsigned_toDigits false n.toNat n fits (by simp; omega) nofun
    -- A digit is not a minus sign.
    · intro c hc
      have hdigit := Nat.isDigit_of_mem_toDigits (by decide) (by decide)
        (List.mem_of_mem_head? hc)
      intro hminus
      rw [hminus] at hdigit
      cases hdigit
  · rw [if_neg hsign, String.toList_append, Nat.toList_repr]
    exact unsigned_toDigits true (-n).toNat n fits (by simp; omega) (fun _ => by omega)

/-! ## Numbers in a document -/

/-- A number that is read back is read back in a document. -/
theorem reads_number (n : Number) (hn : n.ReadsBack) : Reads number n.text (.ok n) := by
  intro rest hrest
  exact extends_number _ n [] rest hrest hn

/-- What is read as a number starts with a sign or a digit. -/
theorem exists_head_of_number (cs : List Char) (read : Number × List Char)
    (hread : number cs = .ok read) :
    ∃ c more, cs = c :: more ∧ (c = '-' || isDigit c) = true := by
  cases cs with
  | nil => cases hread
  | cons c more =>
      refine ⟨c, more, rfl, ?_⟩
      by_cases hminus : c = '-'
      · rw [hminus]
        rfl
      · cases hdigit : isDigit c with
        | true => exact Bool.or_true _
        | false =>
            -- Without a digit in front there is no number at all.
            have hwhole : wholeDigits (c :: more) = .error .invalidNumber := by
              have hnone : digits (c :: more) = .ok ([], c :: more) := by
                rw [digits, List.takeWhile_cons, List.dropWhile_cons, hdigit]
                rfl
              rw [wholeDigits, bind_ok digits _ _ _ _ hnone]
              rfl
            have hsigned : ∀ d, (c :: more).head? = some d → d ≠ '-' := fun d hd =>
              Option.some.inj hd ▸ hminus
            rw [number_of_no_minus _ hsigned, unsigned, bind_error _ _ _ _ hwhole] at hread
            cases hread

theorem not_blank_of_lead (c : Char) (hc : (c = '-' || isDigit c) = true) :
    isBlank c = false := by
  cases hblank : isBlank c with
  | false => rfl
  | true =>
      simp only [isBlank, Bool.or_eq_true, decide_eq_true_eq] at hblank
      rcases hblank with ((rfl | rfl) | rfl) | rfl <;> cases hc

/-- Where a number is due, its text starts with a character that says so. -/
theorem start_number (n : Number) (hn : n.ReadsBack) (rest : List Char) :
    ∃ c, (c = '-' || isDigit c) = true ∧
      start (n.text.toList ++ rest) = .ok (c, n.text.toList ++ rest) := by
  rcases exists_head_of_number _ _ hn with ⟨c, more, hmore, hc⟩
  refine ⟨c, hc, ?_⟩
  rw [hmore]
  exact start_cons c _ (not_blank_of_lead c hc)

theorem fitsWord_toNat (n : UInt64) : FitsWord n.toNat := by
  have hlt := n.toNat_lt
  constructor <;> omega

/-- A natural number of 64 bits is read back. -/
theorem reads_count (n : UInt64) : Reads count (toString n.toNat) (.ok n) := by
  intro rest hrest
  have htext : toString n.toNat = (Number.integer n.toNat (fitsWord_toNat n)).text := rfl
  have hback := readsBack_integer n.toNat (fitsWord_toNat n)
  rcases start_number _ hback rest with ⟨c, hc, hstart⟩
  rw [htext, count, bind_ok start _ _ _ _ hstart]
  simp only [hc, if_true]
  rw [bind_ok number _ _ _ _ (reads_number _ hback rest hrest)]
  -- The integer is not negative, so it is taken as it is.
  have hsign : ¬ (n.toNat : Int) < 0 := by omega
  simp only [if_neg hsign, Int.toNat_natCast, UInt64.ofNat_toNat]
  rfl

end Reader

end Descent.Json
