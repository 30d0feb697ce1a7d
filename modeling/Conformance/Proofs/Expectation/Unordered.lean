import Mathlib
import Conformance.Expectation
import Conformance.Registry

/-!
# Lines in any order are matched as a multiset

Where the order of lines is open, each line takes an expected token equal to it out of those that are
left (`Expectation.claim`), and a line that finds none is compared with one that nobody took
(`Expectation.opposite`). The first pass decides everything: line number `i` finds a token just if fewer
lines before it read the same than there are such tokens (`getElem?_claims`), and the tokens that are
left are the expected ones less the lines, in their order (`claim_left`). In the second pass no line
passes by accident, since a token that is left never equals a line that found none
(`notMem_diff_of_unclaimed`), and with as many lines as tokens none is compared with nothing.

`view_lines` puts the two passes together: token, line and verdict of every outcome. The rest is read
off from it.
-/

namespace Conformance.Expectation

/-! ## Taking tokens -/

variable {tokens texts left : List String} {text : String}

theorem claim_cons_of_mem (h : text ∈ tokens) (rest : List String) :
    claim tokens (text :: rest) =
      (true :: (claim (tokens.erase text) rest).1, (claim (tokens.erase text) rest).2) := by
  rw [claim, if_pos h]

theorem claim_cons_of_notMem (h : text ∉ tokens) (rest : List String) :
    claim tokens (text :: rest) = (false :: (claim tokens rest).1, (claim tokens rest).2) := by
  rw [claim, if_neg h]

/-- **What is left are the tokens less the lines**, in the order of the tokens. -/
theorem claim_left (tokens texts : List String) : (claim tokens texts).2 = tokens.diff texts := by
  induction texts generalizing tokens with
  | nil => rfl
  | cons text rest ih =>
      rw [List.diff_cons]
      by_cases h : text ∈ tokens
      · rw [claim_cons_of_mem h, ih]
      · rw [claim_cons_of_notMem h, ih, List.erase_of_not_mem h]

theorem length_claims (tokens texts : List String) :
    (claim tokens texts).1.length = texts.length := by
  induction texts generalizing tokens with
  | nil => rfl
  | cons text rest ih =>
      by_cases h : text ∈ tokens
      · rw [claim_cons_of_mem h, List.length_cons, List.length_cons, ih]
      · rw [claim_cons_of_notMem h, List.length_cons, List.length_cons, ih]

/-- **A line finds a token just if fewer lines before it read the same than there are such tokens.** -/
theorem getElem?_claims (tokens texts : List String) (i : Nat) :
    (claim tokens texts).1[i]? =
      texts[i]?.map fun text => decide ((texts.take i).count text < tokens.count text) := by
  induction texts generalizing tokens i with
  | nil => rfl
  | cons first rest ih =>
      by_cases h : first ∈ tokens
      · rw [claim_cons_of_mem h]
        cases i with
        | zero =>
            rw [List.getElem?_cons_zero, List.getElem?_cons_zero, Option.map_some, List.take_zero,
              List.count_nil, decide_eq_true (List.count_pos_iff.mpr h)]
        | succ i =>
            rw [List.getElem?_cons_succ, List.getElem?_cons_succ, ih, List.take_succ_cons]
            refine Option.map_congr fun text _ => decide_eq_decide.mpr ?_
            -- the token that the first line took is counted on neither side
            have hpos := List.count_pos_iff.mpr h
            rw [List.count_erase, List.count_cons]
            by_cases heq : first = text
            · subst heq
              rw [beq_self_eq_true, if_pos rfl]
              omega
            · rw [beq_eq_false_iff_ne.mpr heq]
              exact Iff.rfl
      · rw [claim_cons_of_notMem h]
        cases i with
        | zero =>
            rw [List.getElem?_cons_zero, List.getElem?_cons_zero, Option.map_some,
              List.count_eq_zero.mpr h, decide_eq_false (Nat.not_lt_zero _)]
        | succ i =>
            rw [List.getElem?_cons_succ, List.getElem?_cons_succ, ih, List.take_succ_cons]
            refine Option.map_congr fun text _ => decide_eq_decide.mpr ?_
            rw [List.count_cons]
            by_cases heq : first = text
            · subst heq
              rw [List.count_eq_zero.mpr h]
              exact iff_of_false (Nat.not_lt_zero _) (Nat.not_lt_zero _)
            · rw [beq_eq_false_iff_ne.mpr heq]
              exact Iff.rfl

/-- The lines with the verdict of the first pass. -/
def marked (tokens texts : List String) : List (String × Bool) := texts.zip (claim tokens texts).1

theorem length_marked (tokens texts : List String) :
    (marked tokens texts).length = texts.length := by
  rw [marked, List.length_zip, length_claims, Nat.min_self]

/-- Every token is taken by one line or left. -/
theorem perm_claimed (tokens texts : List String) :
    (((marked tokens texts).filter (·.2)).map (·.1) ++ tokens.diff texts).Perm tokens := by
  induction texts generalizing tokens with
  | nil => exact List.Perm.refl tokens
  | cons text rest ih =>
      rw [marked, List.diff_cons]
      by_cases h : text ∈ tokens
      · rw [claim_cons_of_mem h]
        exact ((ih (tokens.erase text)).cons text).trans (List.perm_cons_erase h).symm
      · rw [claim_cons_of_notMem h, List.erase_of_not_mem h]
        exact ih tokens

/-- With as many lines as tokens, as many lines find none as tokens are left. -/
theorem length_unclaimed (h : texts.length = tokens.length) :
    (tokens.diff texts).length = ((marked tokens texts).filter (!·.2)).length := by
  have hperm := (perm_claimed tokens texts).length_eq
  have hsplit := List.length_eq_length_filter_add (l := marked tokens texts) (·.2)
  rw [List.length_append, List.length_map] at hperm
  rw [length_marked] at hsplit
  omega

/-- **No accident**: a line that found no token equals none of those that are left. -/
theorem notMem_diff_of_unclaimed (h : (text, false) ∈ marked tokens texts) :
    text ∉ tokens.diff texts := by
  obtain ⟨i, hi⟩ := List.mem_iff_getElem?.mp h
  obtain ⟨htext, hclaim⟩ := List.getElem?_zip_eq_some.mp hi
  rw [getElem?_claims, htext, Option.map_some] at hclaim
  have hcount : ¬ (texts.take i).count text < tokens.count text :=
    of_decide_eq_false (Option.some.inj hclaim)
  have htake : (texts.take i).count text ≤ texts.count text :=
    (List.take_sublist i texts).count_le text
  rw [← List.count_eq_zero, List.count_diff]
  omega

/-! ## Comparing with what is left -/

variable {pairs : List (String × Bool)}

theorem length_opposite (left : List String) (pairs : List (String × Bool)) :
    (opposite left pairs).length = pairs.length := by
  induction pairs generalizing left with
  | nil =>
      rw [opposite]
      rfl
  | cons pair rest ih =>
      obtain ⟨text, claimed⟩ := pair
      cases claimed with
      | true => rw [opposite, List.length_cons, List.length_cons, ih]
      | false => cases left <;> rw [opposite, List.length_cons, List.length_cons, ih]

/-- A line that found a token is compared with itself. -/
theorem opposite_claimed (left : List String) (pairs : List (String × Bool)) :
    ∀ entry ∈ (opposite left pairs).zip pairs, entry.2.2 = true → entry.1 = entry.2.1 := by
  induction pairs generalizing left with
  | nil => exact fun _ h => absurd h List.not_mem_nil
  | cons pair rest ih =>
      obtain ⟨text, claimed⟩ := pair
      intro entry hentry htrue
      cases claimed with
      | true =>
          rw [opposite, List.zip_cons_cons] at hentry
          rcases List.mem_cons.mp hentry with rfl | hentry
          · rfl
          · exact ih left entry hentry htrue
      | false =>
          cases left with
          | nil =>
              rw [opposite, List.zip_cons_cons] at hentry
              rcases List.mem_cons.mp hentry with rfl | hentry
              · exact absurd htrue Bool.false_ne_true
              · exact ih [] entry hentry htrue
          | cons token left =>
              rw [opposite, List.zip_cons_cons] at hentry
              rcases List.mem_cons.mp hentry with rfl | hentry
              · exact absurd htrue Bool.false_ne_true
              · exact ih left entry hentry htrue

/-- The other lines are compared with the tokens that are left, in order and one each. -/
theorem opposite_unclaimed (h : left.length = (pairs.filter (!·.2)).length) :
    (((opposite left pairs).zip pairs).filter (!·.2.2)).map (·.1) = left := by
  induction pairs generalizing left with
  | nil => exact (List.length_eq_zero_iff.mp h).symm
  | cons pair rest ih =>
      obtain ⟨text, claimed⟩ := pair
      cases claimed with
      | true =>
          rw [opposite, List.zip_cons_cons]
          exact ih h
      | false =>
          cases left with
          | nil => exact absurd h (Nat.succ_ne_zero _).symm
          | cons token left =>
              rw [opposite, List.zip_cons_cons]
              exact congrArg (token :: ·) (ih (Nat.succ.inj h))

/-- In all, lines are compared with what was taken and what is left. -/
theorem perm_opposite (h : left.length = (pairs.filter (!·.2)).length) :
    (opposite left pairs).Perm ((pairs.filter (·.2)).map (·.1) ++ left) := by
  induction pairs generalizing left with
  | nil =>
      rw [List.length_eq_zero_iff.mp h, opposite]
      exact List.Perm.refl []
  | cons pair rest ih =>
      obtain ⟨text, claimed⟩ := pair
      cases claimed with
      | true =>
          rw [opposite]
          exact (ih h).cons text
      | false =>
          cases left with
          | nil => exact absurd h (Nat.succ_ne_zero _).symm
          | cons token left =>
              rw [opposite]
              exact ((ih (Nat.succ.inj h)).cons token).trans List.perm_middle.symm

/-! ## Both passes -/

/-- What the lines are compared with. -/
def compared (expected texts : List String) : List String :=
  opposite (expected.diff texts) (marked expected texts)

theorem tokens_sorted (expected texts : List String) :
    Expectation.tokens expected texts .sorted = compared expected texts := by
  rw [compared, ← claim_left]
  rfl

variable {expected : List String}

/-- A line equals what it is compared with just if it found a token. -/
theorem eq_compared_iff (h : texts.length = expected.length) :
    ∀ entry ∈ (compared expected texts).zip (marked expected texts),
      decide (entry.1 = entry.2.1) = entry.2.2 := by
  rintro ⟨token, text, claimed⟩ hentry
  cases claimed with
  | true => exact decide_eq_true (opposite_claimed _ _ _ hentry rfl)
  | false =>
      have hmem := List.mem_map_of_mem (f := Prod.fst)
        (List.mem_filter.mpr ⟨hentry, rfl⟩ : _ ∈ List.filter (!·.2.2) _)
      rw [compared, opposite_unclaimed (length_unclaimed h)] at hmem
      have htext : text ∉ expected.diff texts :=
        notMem_diff_of_unclaimed (List.of_mem_zip hentry).2
      refine decide_eq_false fun heq => htext ?_
      rwa [← show token = text from heq]

/-- What an outcome says apart from its description: the token, the line and the verdict. -/
def view (outcome : Outcome) : String × String × Bool :=
  (outcome.expected, outcome.actual, outcome.passed)

/-- Descriptions carry the number of a line, nothing else does. -/
theorem view_mapIdx_compare (describe : Nat → String) (pairs : List (String × String)) :
    (pairs.mapIdx fun i pair => Outcome.compare (describe i) pair.1 pair.2).map view =
      pairs.map fun pair => (pair.1, pair.2, decide (pair.1 = pair.2)) := by
  refine List.ext_getElem? fun i => ?_
  rw [List.getElem?_map, List.getElem?_map, List.getElem?_mapIdx, Option.map_map]
  rfl

/-- **Every line is compared with its token, and passes just if it found it.** -/
theorem view_lines (description : String) {seen : List ReadLine}
    (h : seen.length = expected.length) :
    (lines description expected .sorted seen).map view =
      (compared expected (seen.map ReadLine.actual)).zip
        (marked expected (seen.map ReadLine.actual)) := by
  have htexts : (seen.map ReadLine.actual).length = expected.length := by
    rw [List.length_map, h]
  rw [lines, view_mapIdx_compare, tokens_sorted]
  generalize seen.map ReadLine.actual = texts at htexts
  have hzip : (compared expected texts).zip texts =
      ((compared expected texts).zip (marked expected texts)).map (Prod.map id Prod.fst) := by
    rw [← List.zip_map_right, marked,
      List.map_fst_zip (Nat.le_of_eq (length_claims expected texts).symm)]
  calc ((compared expected texts).zip texts).map
        (fun pair => (pair.1, pair.2, decide (pair.1 = pair.2)))
      = ((compared expected texts).zip (marked expected texts)).map
          fun entry => (entry.1, entry.2.1, decide (entry.1 = entry.2.1)) := by
        rw [hzip, List.map_map]
        rfl
    _ = (compared expected texts).zip (marked expected texts) := by
        refine (List.map_congr_left fun entry hentry => ?_).trans (List.map_id _)
        rw [eq_compared_iff htexts entry hentry]
        rfl

/-! ## What the outcomes say -/

/-- How the outcomes for lines in any order come out. -/
structure Unordered (expected texts : List String) (outcomes : List Outcome) : Prop where
  /-- There is one outcome for each line, in order. -/
  shown : outcomes.map Outcome.actual = texts
  /-- Every token is compared once. -/
  compared : (outcomes.map Outcome.expected).Perm expected
  /-- A line passes just if fewer lines before it read the same than there are such tokens. -/
  passed_iff : ∀ i outcome, outcomes[i]? = some outcome →
    (outcome.passed = true ↔
      (texts.take i).count outcome.actual < expected.count outcome.actual)
  /-- As many lines pass as lines and tokens have in common. -/
  passes : (outcomes.filter (·.passed)).length = ((expected : Multiset String) ∩ texts).card
  /-- All pass just if the lines are the tokens in some order. -/
  all_passed : outcomes.all (·.passed) = true ↔ texts.Perm expected
  /-- The failed lines are compared with the tokens that nobody took, in their order. -/
  unclaimed : (outcomes.filter (!·.passed)).map Outcome.expected = expected.diff texts
  /-- No failed line equals any of these. -/
  apart : ∀ outcome ∈ outcomes, outcome.passed = false → outcome.actual ∉ expected.diff texts

variable {outcomes : List Outcome}

theorem length_compared (expected texts : List String) :
    (compared expected texts).length = (marked expected texts).length :=
  length_opposite _ _

section View

variable (htexts : texts.length = expected.length)
  (hview : outcomes.map view = (compared expected texts).zip (marked expected texts))

include hview

theorem map_expected : outcomes.map Outcome.expected = compared expected texts := by
  have h := congrArg (List.map Prod.fst) hview
  rwa [List.map_map, List.map_fst_zip (Nat.le_of_eq (length_compared expected texts))] at h

theorem map_marked :
    outcomes.map (fun outcome => (outcome.actual, outcome.passed)) = marked expected texts := by
  have h := congrArg (List.map Prod.snd) hview
  rwa [List.map_map, List.map_snd_zip (Nat.le_of_eq (length_compared expected texts).symm)] at h

theorem map_actual : outcomes.map Outcome.actual = texts := by
  have h := congrArg (List.map Prod.fst) (map_marked hview)
  rwa [List.map_map, marked, List.map_fst_zip (Nat.le_of_eq (length_claims _ _).symm)] at h

theorem map_passed : outcomes.map Outcome.passed = (claim expected texts).1 := by
  have h := congrArg (List.map Prod.snd) (map_marked hview)
  rwa [List.map_map, marked, List.map_snd_zip (Nat.le_of_eq (length_claims _ _))] at h

include htexts in
theorem map_unclaimed :
    (outcomes.filter (!·.passed)).map Outcome.expected = expected.diff texts := by
  have h := congrArg (fun entries => (List.filter (!·.2.2) entries).map Prod.fst) hview
  rw [List.filter_map, List.map_map, compared, opposite_unclaimed (length_unclaimed htexts)] at h
  exact h

include htexts in
/-- The tokens that nobody took and those that lines took together are all tokens. -/
theorem passes_eq :
    (outcomes.filter (·.passed)).length = ((expected : Multiset String) ∩ texts).card := by
  have hfailed := congrArg List.length (map_unclaimed htexts hview)
  have hsplit := List.length_eq_length_filter_add (l := outcomes) (·.passed)
  have hlength : outcomes.length = texts.length := by
    rw [← map_actual hview, List.length_map]
  have hcommon := congrArg Multiset.card
    (Multiset.sub_add_inter (expected : Multiset String) texts)
  rw [Multiset.card_add, Multiset.coe_sub, Multiset.coe_card, Multiset.coe_card] at hcommon
  rw [List.length_map] at hfailed
  omega

end View

/-- Tokens are all taken just if the lines are the tokens in some order. -/
theorem diff_eq_nil_iff (h : texts.length = expected.length) :
    expected.diff texts = [] ↔ texts.Perm expected := by
  rw [← Multiset.coe_eq_zero, ← Multiset.coe_sub, tsub_eq_zero_iff_le, ← Multiset.coe_eq_coe]
  constructor
  · intro hle
    exact (Multiset.eq_of_le_of_card_le hle (Nat.le_of_eq h)).symm
  · intro heq
    exact heq.ge

/-- **Lines in any order are matched as a multiset.** -/
theorem unordered_lines (description : String) {seen : List ReadLine}
    (h : seen.length = expected.length) :
    Unordered expected (seen.map ReadLine.actual)
      (lines description expected .sorted seen) := by
  have hview := view_lines description h
  have htexts : (seen.map ReadLine.actual).length = expected.length := by
    rw [List.length_map, h]
  generalize lines description expected .sorted seen = outcomes at hview
  generalize seen.map ReadLine.actual = texts at hview htexts
  have hunclaimed := map_unclaimed htexts hview
  refine ⟨map_actual hview, ?_, ?_, passes_eq htexts hview, ?_, hunclaimed, ?_⟩
  · rw [map_expected hview]
    exact (perm_opposite (length_unclaimed htexts)).trans (perm_claimed expected texts)
  · intro i outcome hi
    have hpassed := getElem?_claims expected texts i
    rw [← map_passed hview, List.getElem?_map, hi, ← map_actual hview, List.getElem?_map, hi] at hpassed
    rw [Option.some.inj hpassed, decide_eq_true_iff, map_actual hview]
  · rw [← diff_eq_nil_iff htexts, ← hunclaimed, List.map_eq_nil_iff, List.filter_eq_nil_iff,
      List.all_eq_true]
    simp only [Bool.not_eq_true', Bool.not_eq_false]
  · intro outcome houtcome hfailed
    have hmem : (outcome.actual, outcome.passed) ∈ marked expected texts :=
      map_marked hview ▸ List.mem_map_of_mem houtcome
    exact notMem_diff_of_unclaimed (hfailed ▸ hmem)

theorem Unordered.length_outcomes (h : Unordered expected texts outcomes) :
    outcomes.length = texts.length := by
  rw [← h.shown, List.length_map]

theorem Unordered.failures (h : Unordered expected texts outcomes) :
    (outcomes.filter (!·.passed)).length =
      texts.length - ((expected : Multiset String) ∩ texts).card := by
  have hsplit := List.length_eq_length_filter_add (l := outcomes) (·.passed)
  rw [h.length_outcomes, h.passes] at hsplit
  omega

/-- **Neither the order of the tokens nor that of the lines matters** for the verdict and the number of
    failures. -/
theorem Unordered.congr_perm {expected' texts' : List String} {outcomes' : List Outcome}
    (h : Unordered expected texts outcomes) (h' : Unordered expected' texts' outcomes')
    (hexpected : expected'.Perm expected) (htexts : texts'.Perm texts) :
    outcomes'.all (·.passed) = outcomes.all (·.passed) ∧
      (outcomes'.filter (!·.passed)).length = (outcomes.filter (!·.passed)).length := by
  constructor
  · rw [Bool.eq_iff_iff, h'.all_passed, h.all_passed]
    exact ⟨fun hperm => htexts.symm.trans (hperm.trans hexpected),
      fun hperm => htexts.trans (hperm.trans hexpected.symm)⟩
  · rw [h'.failures, h.failures, htexts.length_eq, Multiset.coe_eq_coe.mpr hexpected,
      Multiset.coe_eq_coe.mpr htexts]

/-! ## Reading the lines -/

/-- Whatever takes lines one at a time takes the next ones in turn and leaves what comes after them. -/
theorem eq_iterate {S : Type} {next : S → ReadLine × S} {take : Nat → S → List ReadLine × S}
    (hzero : ∀ source, take 0 source = ([], source))
    (hsucc : ∀ n source, take (n + 1) source =
      ((next source).1 :: (take n (next source).2).1, (take n (next source).2).2))
    (n : Nat) (source : S) :
    take n source =
      ((List.range n).map fun i => (next ((fun s => (next s).2)^[i] source)).1,
        (fun s => (next s).2)^[n] source) := by
  induction n generalizing source with
  | zero => rw [hzero]; rfl
  | succ n ih =>
      rw [hsucc, ih, List.range_succ_eq_map, List.map_cons, List.map_map]
      rfl

/-- Lines taken one at a time, as many as there are tokens, are matched as a multiset. -/
theorem unordered_taken {S : Type} {next : S → ReadLine × S} (take : Nat → S → List ReadLine × S)
    (hzero : ∀ source, take 0 source = ([], source))
    (hsucc : ∀ n source, take (n + 1) source =
      ((next source).1 :: (take n (next source).2).1, (take n (next source).2).2))
    (description : String) (expected : List String) (source : S) :
    (take expected.length source).2 = (fun s => (next s).2)^[expected.length] source ∧
      Unordered expected
        ((List.range expected.length).map fun i =>
          (next ((fun s => (next s).2)^[i] source)).1.actual)
        (lines description expected .sorted (take expected.length source).1) := by
  have htaken := eq_iterate hzero hsucc expected.length source
  refine ⟨congrArg Prod.snd htaken, ?_⟩
  have hseen := congrArg Prod.fst htaken
  have hlength := congrArg List.length hseen
  rw [List.length_map, List.length_range] at hlength
  have hunordered := unordered_lines description hlength
  rwa [congrArg (List.map ReadLine.actual) hseen, List.map_map] at hunordered

/-- **UNORDERED MATCHING IS MULTISET MATCHING.** As many lines are taken as there are tokens, from a reader
    as well as from a process that goes on printing, and what comes behind them stays unread; the
    outcomes match the lines with the tokens as multisets, so neither the order of the tokens nor that
    of the lines matters. -/
theorem unordered_matching (description : String) (expected : List String) :
    (∀ reader : LineReader,
      let skip := fun reader : LineReader => reader.read.2
      let result := reader.expectLines description expected .sorted
      result.2 = skip^[expected.length] reader ∧
        Unordered expected
          ((List.range expected.length).map fun i => (skip^[i] reader).read.1.actual) result.1) ∧
    (∀ {σ : Type} [Machine σ] (millis : Nat) (spawned : Spawned) (machine : σ),
      let next := fun source : Spawned × σ => source.1.readLine millis source.2
      let skip := fun source => (next source).2
      let result := Spawned.readLines expected.length millis spawned machine
      result.2 = skip^[expected.length] (spawned, machine) ∧
        Unordered expected
          ((List.range expected.length).map fun i => (next (skip^[i] (spawned, machine))).1.actual)
          (lines description expected .sorted result.1)) ∧
    ∀ (expected' : List String) (seen seen' : List ReadLine), seen.length = expected.length →
      expected'.Perm expected → (seen'.map ReadLine.actual).Perm (seen.map ReadLine.actual) →
      let outcomes := lines description expected .sorted seen
      let outcomes' := lines description expected' .sorted seen'
      outcomes'.all (·.passed) = outcomes.all (·.passed) ∧
        (outcomes'.filter (!·.passed)).length = (outcomes.filter (!·.passed)).length := by
  refine ⟨fun reader => ?_, fun millis spawned machine => ?_, ?_⟩
  · exact unordered_taken LineReader.readMany (fun _ => rfl) (fun _ _ => rfl)
      description expected reader
  · exact unordered_taken
      (fun n (source : Spawned × _) => Spawned.readLines n millis source.1 source.2)
      (fun _ => rfl) (fun _ _ => rfl) description expected (spawned, machine)
  · intro expected' seen seen' hlength hexpected hseen
    have hlength' : seen'.length = expected'.length := by
      have hcount := hseen.length_eq
      rw [List.length_map, List.length_map] at hcount
      rw [hcount, hlength, hexpected.length_eq]
    exact (unordered_lines description hlength).congr_perm
      (unordered_lines description hlength') hexpected hseen

/-- A listing in which one user comes twice, one is missing and the output ends early. -/
def cutShort : LineReader := ⟨[.bytes (Text.encode "dave\nalice\nal"), .bytes (Text.encode "ice\n")],
  true, [], none⟩

/-- The missing users are named in their order, and shuffled tokens fail as often. -/
theorem unordered_matching_cutShort :
    (((cutShort.expectLines "listing" ["bob", "alice", "chris", "alice"] .sorted).1.filter
      (!·.passed)).map Outcome.expected = ["bob", "chris"]) ∧
    ((lines "listing" ["alice", "chris", "alice", "bob"] .sorted
      (cutShort.readMany 4).1).filter (!·.passed)).length = 2 := by
  have hreader := (unordered_matching "listing" ["bob", "alice", "chris", "alice"]).1 cutShort
  have hfailed : ((cutShort.expectLines "listing" ["bob", "alice", "chris", "alice"] .sorted).1.filter
      (!·.passed)).map Outcome.expected = ["bob", "chris"] := hreader.2.unclaimed.trans (by decide)
  have hshuffled := (unordered_matching "listing" ["bob", "alice", "chris", "alice"]).2.2
    ["alice", "chris", "alice", "bob"] (cutShort.readMany 4).1 (cutShort.readMany 4).1 rfl
    (by decide) (List.Perm.refl _)
  refine ⟨hfailed, hshuffled.2.trans ?_⟩
  exact (List.length_map _).symm.trans (congrArg List.length hfailed)

end Conformance.Expectation
