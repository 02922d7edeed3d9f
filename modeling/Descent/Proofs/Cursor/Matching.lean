import Descent.Proofs.Cursor.Outcome
import Descent.Proofs.Feed.Pulls

/-!
# Matching is All or Nothing

A parser decides by matching, so a match must never end half way. It takes
one step, the very step that moving on would take, or it takes none: then the
token, the feed and all settings are as they were, and what the caller gets
in place of a token is the complaint that could have been made before.

Nothing is asked of the feed or of the cursor. The feed may have gaps, repeat
its last token or forget it, and the caller may have written any token over
the current one.

Moving on by name and moving on by a match are compared as whole cursors, so
there is no field that one of them could forget. That a match which fails
does not even ask the feed is a statement of its own, since a feed need not
show that it was asked: it is made about a feed that counts.

## Main definitions

* `Expectation.Fits`: Whether a token fits, said without running a test.

## Theorems

* `accepts_iff_fits`: The test accepts the tokens that fit.
* `exists_ofParts`: Every expectation is made of values and a kind.
* `isOn_iff_fits`: A cursor is on an expectation if its token fits.
* `result_expect`: Insisting is eating, with a token or a complaint to show.
* `count_eat`, `count_expect`: A match asks the feed once or not at all.
* `matching_is_atomic`: A match takes one step or none.
-/

namespace Descent

namespace Expectation

/-- Whether a token fits what was asked for: its value is among the values,
    if there are any, or else its kind is the kind. If neither was given
    nothing fits. -/
def Fits (values? : Option (List String)) (kind? : Option TokenKind) (token : Token) : Prop :=
  match values?, kind? with
  | some values, _ => token.value ∈ values
  | none, some kind => token.kind = kind
  | none, none => False

theorem accepts_iff_fits (values? : Option (List String)) (kind? : Option TokenKind)
    (token : Token) :
    (ofParts values? kind?).accepts token = true ↔ Fits values? kind? token := by
  cases values? with
  | some values => simp [ofParts, accepts, Fits]
  | none =>
      cases kind? with
      | some kind => simp [ofParts, accepts, Fits]
      | none => simp [ofParts, accepts, Fits]

/-- There are no other expectations than those made of values and a kind. -/
theorem exists_ofParts (expected : Expectation) :
    ∃ values? kind?, expected = ofParts values? kind? := by
  cases expected with
  | oneOf values => exact ⟨some values, none, rfl⟩
  | ofKind kind => exact ⟨none, some kind, rfl⟩
  | unspecified => exact ⟨none, none, rfl⟩

end Expectation

namespace Cursor

variable {σ : Type}

theorem isOn_iff_fits (c : Cursor σ) (values? : Option (List String))
    (kind? : Option TokenKind) :
    c.isOn (.ofParts values? kind?) = true ↔
      ∃ token, c.token = some token ∧ Expectation.Fits values? kind? token := by
  simp only [isOn_iff, Expectation.accepts_iff_fits]

theorem isOn_unspecified (c : Cursor σ) : c.isOn .unspecified = false := by
  have hnone := c.isOn_iff_fits none none
  simpa [Expectation.ofParts, Expectation.Fits] using hnone

theorem isOn_oneOf_nil (c : Cursor σ) : c.isOn (.oneOf []) = false := by
  have hnil := c.isOn_iff_fits (some []) none
  simpa [Expectation.ofParts, Expectation.Fits] using hnil

variable [TokenFeed σ]

/-- Insisting does to the cursor what eating does. It has the token to show
    that was eaten, or the complaint about the token that was not. -/
theorem result_expect (c : Cursor σ) (expected : Expectation) :
    (c.expect expected).result.2 = (c.eat expected).result.2 ∧
    (c.isOn expected = true →
      ∃ token, c.token = some token ∧ (c.expect expected).result.1 = .ok token) ∧
    (c.isOn expected = false →
      (c.expect expected).result.1 = .error (c.mismatch expected).result) := by
  rw [result_eat]
  rcases c.expect_cases expected with ⟨token, htoken, haccepts, hresult⟩ | ⟨hoff, hresult⟩
  · have hon : c.isOn expected = true := (c.isOn_iff expected).2 ⟨token, htoken, haccepts⟩
    rw [hon, hresult]
    exact ⟨rfl, fun _ => ⟨token, htoken, rfl⟩, nofun⟩
  · rw [hoff, hresult]
    exact ⟨rfl, nofun, fun _ => rfl⟩

/-- Eating asks the feed once if the token fits, and else not at all. -/
theorem count_eat (c : Cursor (Metered σ)) (expected : Expectation) :
    (c.eat expected).result.2.feed.count =
      c.feed.count + if c.isOn expected then 1 else 0 := by
  rw [result_eat]
  by_cases hon : c.isOn expected = true
  · rw [if_pos hon, if_pos hon]
    rfl
  · rw [if_neg hon, if_neg hon]
    rfl

/-- So does insisting, whatever it has to show. -/
theorem count_expect (c : Cursor (Metered σ)) (expected : Expectation) :
    (c.expect expected).result.2.feed.count =
      c.feed.count + if c.isOn expected then 1 else 0 := by
  rw [(c.result_expect expected).1, count_eat]

/-! ## All or nothing -/

/-- Of every cursor, whatever its feed and however it came to its token: it
    is on an expectation exactly if its token fits. Eating and insisting
    succeed exactly then; they leave the cursor that moving on leaves and
    hand over the token it was on. Else they leave the cursor they found,
    insisting with the complaint that fits the expectation, and have not
    asked the feed. -/
theorem matching_is_atomic :
    (∀ expected, ∃ values? kind?, expected = Expectation.ofParts values? kind?) ∧
    (∀ (σ : Type) [TokenFeed σ] (c : Cursor σ),
      (∀ values? kind?, c.isOn (.ofParts values? kind?) = true ↔
        ∃ token, c.token = some token ∧ Expectation.Fits values? kind? token) ∧
      c.isOn .unspecified = false ∧
      c.isOn (.oneOf []) = false ∧
      (∀ expected,
        (c.eat expected).result.1 = c.isOn expected ∧
        ((∃ token, (c.expect expected).result.1 = .ok token) ↔ c.isOn expected = true) ∧
        (c.isOn expected = true →
          (c.eat expected).result.2 = c.advance.result ∧
          (c.expect expected).result.2 = c.advance.result ∧
          ∃ token, c.token = some token ∧ (c.expect expected).result.1 = .ok token) ∧
        (c.isOn expected = false →
          (c.eat expected).result.2 = c ∧
          (c.expect expected).result.2 = c ∧
          (c.expect expected).result.1 = .error (match expected with
            | .oneOf values => c.unexpectedValue (", ".intercalate values)
            | .ofKind kind => c.unexpected (some kind.name)
            | .unspecified => c.unexpected none).result))) ∧
    (∀ (σ : Type) [TokenFeed σ] (c : Cursor (Metered σ)) (expected : Expectation),
      (c.eat expected).result.2.feed.count =
        c.feed.count + (if c.isOn expected then 1 else 0) ∧
      (c.expect expected).result.2.feed.count =
        c.feed.count + (if c.isOn expected then 1 else 0)) := by
  refine ⟨Expectation.exists_ofParts, fun σ _ c => ⟨c.isOn_iff_fits, c.isOn_unspecified,
    c.isOn_oneOf_nil, fun expected => ?_⟩,
    fun σ _ c expected => ⟨c.count_eat expected, c.count_expect expected⟩⟩
  rcases c.result_expect expected with ⟨hbehind, htaken, hrefused⟩
  rw [hbehind, result_eat]
  by_cases hon : c.isOn expected = true
  · rw [hon]
    rcases htaken hon with ⟨token, htoken, hok⟩
    exact ⟨rfl, ⟨fun _ => rfl, fun _ => ⟨token, hok⟩⟩,
      fun _ => ⟨rfl, rfl, token, htoken, hok⟩, nofun⟩
  -- The complaint is the one of the cursor in front of the match, since that
  -- is the cursor behind it.
  · have hoff : c.isOn expected = false := by simpa using hon
    rw [hoff]
    have herror := hrefused hoff
    refine ⟨rfl, ⟨fun hok => ?_, nofun⟩, nofun, fun _ => ⟨rfl, rfl, herror.trans ?_⟩⟩
    · rcases hok with ⟨token, hok⟩
      rw [herror] at hok
      cases hok
    · cases expected with
      | oneOf values => rfl
      | ofKind kind => rfl
      | unspecified => rfl

/-- A feed in a gap, which forgets what it gave, and an operator written over
    the token that is missing: one of two signs is eaten and the feed goes on
    behind its gap; a word is not, and the complaint lists both words. -/
theorem matching_is_atomic_in_a_gap :
    let plus : Token := ⟨"+", .operator, ⟨1, 2, "a + b"⟩⟩
    let name : Token := ⟨"b", .identifier, ⟨1, 4, "a + b"⟩⟩
    let c := (ofFeed (Script.ofList [none, some name] false false)).withToken (some plus)
    let signs : Expectation := .ofParts (some ["+", "-"]) (some .identifier)
    let words : Expectation := .oneOf ["let", "const"]
    c.last? = none ∧
      (c.eat signs).result.1 = true ∧
      (c.eat signs).result.2.token = some name ∧
      (∃ token, c.token = some token ∧ (c.expect signs).result.1 = .ok token) ∧
      (c.expect words).result.2 = c ∧
      ∃ d, (c.expect words).result.1 = .error d ∧ d.message = "Expected: let, const" := by
  intro plus name c signs words
  rcases matching_is_atomic.2.1 Script c with ⟨hfits, _, _, hmatch⟩
  have hmem : plus.value ∈ ["+", "-"] := by decide
  have hon : c.isOn signs = true := (hfits _ _).2 ⟨plus, rfl, hmem⟩
  have hoff : c.isOn words = false := by decide
  rcases hmatch signs with ⟨heat, _, htaken, _⟩
  rcases hmatch words with ⟨_, _, _, hmissed⟩
  refine ⟨rfl, heat.trans hon, ?_, (htaken hon).2.2, (hmissed hoff).2.1, _,
    (hmissed hoff).2.2, by decide⟩
  rw [(htaken hon).1]
  rfl

end Cursor

end Descent
