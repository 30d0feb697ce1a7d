import Conformance.Cli.Footprint
import Conformance.Proofs.Text.Joined
import Mathlib.Algebra.Group.Nat.Defs

/-!
# Which arguments are footprints

An argument without a colon is a name. Any other is cut at its first colon, and only at this one
(`cutColon?_colon`): a second colon is left to the length, where it is no digit. Both ends of the
reading are then known, since a length is read just if it writes a word, and from the two cases
`parse_of_notMem` and `parse_colon` follows which arguments are accepted, and which of the two
complaints is made about the others.
-/

namespace Conformance.Directory

/-! ## The first colon -/

theorem toList_colon (name length : String) :
    (name ++ ":" ++ length).toList = name.toList ++ ':' :: length.toList := by
  rw [String.toList_append, String.toList_append, List.append_assoc]
  rfl

theorem cutColon?_of_notMem {text : String} (h : ':' ∉ text.toList) : cutColon? text = none := by
  rw [cutColon?, Text.span_of_notMem h]

theorem cutColon?_colon {name : String} (h : ':' ∉ name.toList) (length : String) :
    cutColon? (name ++ ":" ++ length) = some (name, length) := by
  rw [cutColon?, toList_colon, Text.span_separator h]
  dsimp only
  rw [String.ofList_toList, String.ofList_toList]

/-- A text with a colon begins with a name. -/
theorem exists_colon {text : String} (h : ':' ∈ text.toList) :
    ∃ name length : String, ':' ∉ name.toList ∧ text = name ++ ":" ++ length := by
  obtain ⟨before, after, htext, hbefore⟩ := List.eq_append_cons_of_mem h
  refine ⟨String.ofList before, String.ofList after, by rwa [String.toList_ofList], ?_⟩
  rw [← String.toList_inj, toList_colon, String.toList_ofList, String.toList_ofList, htext]

/-! ## Lengths -/

/-- Whether a text writes a length: the lengths of contents are 64-bit words. -/
def WritesLength (text : String) (n : Nat) : Prop := Text.Writes text n ∧ n ≤ 2 ^ 64 - 1

theorem word_eq_ok_iff_writesLength {text : String} {n : Nat} :
    Text.word text = .ok n ↔ WritesLength text n := by
  have hword : UInt64.size = 2 ^ 64 := rfl
  rw [Text.word_eq_ok_iff, WritesLength, Nat.le_sub_one_iff_lt (by decide), hword]

theorem WritesLength.toNat_ofNat {text : String} {n : Nat} (h : WritesLength text n) :
    (UInt64.ofNat n).toNat = n :=
  UInt64.toNat_ofNat_of_lt (Nat.lt_of_le_sub_one (by decide) h.2)

/-- A colon is no digit. -/
theorem not_writesLength_of_colon {text : String} (h : ':' ∈ text.toList) (n : Nat) :
    ¬ WritesLength text n := by
  rintro ⟨⟨digits, hdigits, -, hall, -⟩, -⟩
  rcases hdigits with hdigits | hdigits <;> rw [hdigits] at h
  · exact absurd (hall ':' h) (by decide)
  · exact absurd (hall ':' ((List.mem_cons.mp h).resolve_left (by decide))) (by decide)

namespace Footprint

/-! ## The forms of an argument -/

theorem named_eq_ok_iff {name : String} {n : Nat} {user : Footprint} :
    named name n = .ok user ↔ name ≠ "" ∧ user = ⟨name, UInt64.ofNat n⟩ := by
  rw [named]
  split
  · next hempty => exact iff_of_false nofun fun h => h.1 hempty
  · next hname => rw [Except.ok.injEq, eq_comm, and_iff_right hname]

theorem named_eq_error_iff {name : String} {n : Nat} {e : FootprintError} :
    named name n = .error e ↔ name = "" ∧ e = .emptyName := by
  rw [named]
  split
  · next hempty => rw [Except.error.injEq, eq_comm, and_iff_right hempty]
  · next hname => exact iff_of_false nofun fun h => hname h.1

theorem parse_of_notMem {text : String} (h : ':' ∉ text.toList) : parse text = named text 0 := by
  rw [parse, cutColon?_of_notMem h]

theorem parse_of_length {name length : String} (h : ':' ∉ name.toList) {n : Nat}
    (hlength : WritesLength length n) : parse (name ++ ":" ++ length) = named name n := by
  rw [parse, cutColon?_colon h]
  dsimp only
  rw [word_eq_ok_iff_writesLength.mpr hlength]

/-- A bad length is what is complained about, whether or not the name is empty. -/
theorem exists_parse_of_not_length {name length : String} (h : ':' ∉ name.toList)
    (hlength : ∀ n, ¬ WritesLength length n) :
    ∃ e, parse (name ++ ":" ++ length) = .error (.badLength length e) := by
  rw [parse, cutColon?_colon h]
  dsimp only
  cases hword : Text.word length with
  | error e => exact ⟨e, rfl⟩
  | ok n => exact absurd (word_eq_ok_iff_writesLength.mp hword) (hlength n)

/-- **THE THREE FORMS**: a name, a name with a length, and a name with something else. -/
theorem forms (text : String) :
    (':' ∉ text.toList ∧ parse text = named text 0) ∨
    ∃ name length, text = name ++ ":" ++ length ∧ ':' ∉ name.toList ∧
      ((∃ n, WritesLength length n ∧ parse text = named name n) ∨
        (∀ n, ¬ WritesLength length n) ∧ ∃ e, parse text = .error (.badLength length e)) := by
  by_cases hcolon : ':' ∈ text.toList
  · obtain ⟨name, length, hname, rfl⟩ := exists_colon hcolon
    refine Or.inr ⟨name, length, rfl, hname, ?_⟩
    by_cases hlength : ∃ n, WritesLength length n
    · obtain ⟨n, hn⟩ := hlength
      exact Or.inl ⟨n, hn, parse_of_length hname hn⟩
    · have hbad := not_exists.mp hlength
      exact Or.inr ⟨hbad, exists_parse_of_not_length hname hbad⟩
  · exact Or.inl ⟨hcolon, parse_of_notMem hcolon⟩

/-! ## What comes of an argument -/

theorem parse_eq_ok_iff {text : String} {user : Footprint} :
    parse text = .ok user ↔
      (text ≠ "" ∧ ':' ∉ text.toList ∧ user = ⟨text, 0⟩) ∨
      ∃ name length n, text = name ++ ":" ++ length ∧ name ≠ "" ∧ ':' ∉ name.toList ∧
        WritesLength length n ∧ user = ⟨name, UInt64.ofNat n⟩ := by
  constructor
  · intro hok
    rcases forms text with ⟨hcolon, hparse⟩ | ⟨name, length, htext, hname, hform⟩
    · rw [hparse, named_eq_ok_iff] at hok
      exact Or.inl ⟨hok.1, hcolon, hok.2⟩
    · rcases hform with ⟨n, hn, hparse⟩ | ⟨-, e, hparse⟩
      · rw [hparse, named_eq_ok_iff] at hok
        exact Or.inr ⟨name, length, n, htext, hok.1, hname, hn, hok.2⟩
      · exact nomatch hparse.symm.trans hok
  · rintro (⟨hne, hcolon, rfl⟩ | ⟨name, length, n, rfl, hne, hname, hn, rfl⟩)
    · rw [parse_of_notMem hcolon]
      exact named_eq_ok_iff.mpr ⟨hne, rfl⟩
    · rw [parse_of_length hname hn]
      exact named_eq_ok_iff.mpr ⟨hne, rfl⟩

theorem parse_eq_emptyName_iff {text : String} :
    parse text = .error .emptyName ↔
      text = "" ∨ ∃ length n, text = ":" ++ length ∧ WritesLength length n := by
  constructor
  · intro herror
    rcases forms text with ⟨-, hparse⟩ | ⟨name, length, htext, -, hform⟩
    · rw [hparse, named_eq_error_iff] at herror
      exact Or.inl herror.1
    · rcases hform with ⟨n, hn, hparse⟩ | ⟨-, e, hparse⟩
      · rw [hparse, named_eq_error_iff] at herror
        obtain ⟨rfl, -⟩ := herror
        exact Or.inr ⟨length, n, htext, hn⟩
      · exact nomatch hparse.symm.trans herror
  · rintro (rfl | ⟨length, n, rfl, hn⟩)
    · rfl
    · exact @parse_of_length "" length nofun n hn

theorem exists_parse_eq_badLength_iff {text length : String} :
    (∃ e, parse text = .error (.badLength length e)) ↔
      ∃ name, text = name ++ ":" ++ length ∧ ':' ∉ name.toList ∧ ∀ n, ¬ WritesLength length n := by
  constructor
  · rintro ⟨e, herror⟩
    rcases forms text with ⟨-, hparse⟩ | ⟨name, length', htext, hname, hform⟩
    · rw [hparse, named_eq_error_iff] at herror
      exact nomatch herror.2
    · rcases hform with ⟨n, -, hparse⟩ | ⟨hbad, e', hparse⟩
      · rw [hparse, named_eq_error_iff] at herror
        exact nomatch herror.2
      · obtain ⟨rfl, -⟩ := FootprintError.badLength.inj
          (Except.error.inj (hparse.symm.trans herror))
        exact ⟨name, htext, hname, hbad⟩
  · rintro ⟨name, rfl, hname, hbad⟩
    exact exists_parse_of_not_length hname hbad

end Footprint

/-- **WHICH ARGUMENTS ARE FOOTPRINTS.** A text is accepted just if it is a name without a colon, or such a
    name, a colon and a length; so whatever is written in this form is read again. Every other text is
    refused: one with a second colon for its length, as is every bad length, even behind an empty name,
    and an empty name only where there is nothing else to complain about. -/
theorem footprint_arguments (text : String) :
    (∀ name n,
      (∃ user, Footprint.parse text = .ok user ∧ user.name = name ∧
          user.contentLength.toNat = n) ↔
        (text ≠ "" ∧ ':' ∉ text.toList ∧ name = text ∧ n = 0) ∨
        ∃ length, text = name ++ ":" ++ length ∧ name ≠ "" ∧ ':' ∉ name.toList ∧
          WritesLength length n) ∧
    (∀ name (n : UInt64), name ≠ "" → ':' ∉ name.toList →
      text = name ++ ":" ++ Text.decimal n.toNat → Footprint.parse text = .ok ⟨name, n⟩) ∧
    (2 ≤ text.toList.count ':' → ∃ length e, Footprint.parse text = .error (.badLength length e)) ∧
    (∀ length, (∃ e, Footprint.parse text = .error (.badLength length e)) ↔
      ∃ name, text = name ++ ":" ++ length ∧ ':' ∉ name.toList ∧
        ∀ n, ¬ WritesLength length n) ∧
    (Footprint.parse text = .error .emptyName ↔
      text = "" ∨ ∃ length n, text = ":" ++ length ∧ WritesLength length n) := by
  refine ⟨fun name n => ⟨?_, ?_⟩, ?_, fun htwo => ?_, fun length => ?_, ?_⟩
  · rintro ⟨user, hok, rfl, rfl⟩
    rcases Footprint.parse_eq_ok_iff.mp hok with
      ⟨hne, hcolon, rfl⟩ | ⟨name, length, n, htext, hne, hname, hn, rfl⟩
    · exact Or.inl ⟨hne, hcolon, rfl, rfl⟩
    · exact Or.inr ⟨length, htext, hne, hname, hn.toNat_ofNat.symm ▸ hn⟩
  · rintro (⟨hne, hcolon, rfl, rfl⟩ | ⟨length, htext, hne, hname, hn⟩)
    · exact ⟨_, Footprint.parse_eq_ok_iff.mpr (Or.inl ⟨hne, hcolon, rfl⟩), rfl, rfl⟩
    · exact ⟨_, Footprint.parse_eq_ok_iff.mpr
        (Or.inr ⟨name, length, n, htext, hne, hname, hn, rfl⟩), rfl, hn.toNat_ofNat⟩
  · intro name n hne hname htext
    refine Footprint.parse_eq_ok_iff.mpr
      (Or.inr ⟨name, _, n.toNat, htext, hne, hname, ⟨Text.writes_decimal _, ?_⟩, ?_⟩)
    · exact Nat.le_sub_one_of_lt n.toNat_lt
    · rw [UInt64.ofNat_toNat]
  · have hcolon : ':' ∈ text.toList := List.count_pos_iff.mp (by omega)
    obtain ⟨name, length, hname, rfl⟩ := exists_colon hcolon
    -- the first colon is the one behind the name, so the second one is in the length
    rw [toList_colon, List.count_append, List.count_cons_self, List.count_eq_zero_of_not_mem hname]
      at htwo
    have hlength : ':' ∈ length.toList := List.count_pos_iff.mp (by omega)
    exact ⟨length, Footprint.exists_parse_of_not_length hname (not_writesLength_of_colon hlength)⟩
  · exact Footprint.exists_parse_eq_badLength_iff
  · exact Footprint.parse_eq_emptyName_iff

/-- The largest length is read, behind a sign and zeros too, and the one above it is refused, though the
    name in front of it is empty. -/
theorem footprint_arguments_brink :
    (∃ user, Footprint.parse "é:+00018446744073709551615" = .ok user ∧ user.name = "é" ∧
      user.contentLength.toNat = 2 ^ 64 - 1) ∧
    "é" ≠ "" ∧ ':' ∉ "é".toList ∧
    "é:18446744073709551615" = "é" ++ ":" ++ Text.decimal (18446744073709551615 : UInt64).toNat ∧
    Footprint.parse "é:18446744073709551615" = .ok ⟨"é", 18446744073709551615⟩ ∧
    2 ≤ "a:1:2".toList.count ':' ∧
    (∃ length e, Footprint.parse "a:1:2" = .error (.badLength length e)) ∧
    (∃ e, Footprint.parse ":18446744073709551616" =
      .error (.badLength "18446744073709551616" e)) := by
  have hsigned : WritesLength "+00018446744073709551615" (2 ^ 64 - 1) :=
    ⟨⟨"00018446744073709551615".toList, Or.inr rfl, by decide, List.all_eq_true.mp rfl, rfl⟩,
      Nat.le_refl _⟩
  have hcolon : ':' ∉ "é".toList := by decide
  have hlargest : "é:18446744073709551615" =
      "é" ++ ":" ++ Text.decimal (18446744073709551615 : UInt64).toNat := by decide
  have htwo : 2 ≤ "a:1:2".toList.count ':' := by decide
  have hlarge (n : Nat) : ¬ WritesLength "18446744073709551616" n := fun hn =>
    have hword : Text.word "18446744073709551616" = .error .tooLarge := by decide
    nomatch hword.symm.trans (word_eq_ok_iff_writesLength.mpr hn)
  refine ⟨?_, by decide, hcolon, hlargest, ?_, htwo, ?_, ?_⟩
  · exact ((footprint_arguments _).1 "é" (2 ^ 64 - 1)).mpr
      (Or.inr ⟨_, rfl, by decide, hcolon, hsigned⟩)
  · exact (footprint_arguments _).2.1 "é" _ (by decide) hcolon hlargest
  · exact (footprint_arguments _).2.2.1 htwo
  · exact ((footprint_arguments _).2.2.2.1 _).mpr ⟨"", rfl, by decide, hlarge⟩

end Conformance.Directory
