import Conformance.Proofs.Directory.RoundTrip
import Conformance.Proofs.Directory.Sizes
import Conformance.Proofs.FileSystem.Subtree
import Conformance.Proofs.Text.Utf8
import Conformance.Standin.Store
import Conformance.Standin.Writer

/-!
# The stand-in's records

The stand-in writes a directory file by arithmetic of its own: lengths by dividing, padding by the
remainder of a sum. Byte for byte it writes what the library's encoder writes for records with the
stand-in's salt and hash (`recordBytes_eq`, `directoryBytes_eq`). Which names get a record is decided by
the file of names in order: a line there is a name, but for the name `-n`, of which nothing is written
(`feedLines_orderBytes`).
-/

namespace Conformance.Standin

open Directory (Record)

/-! ## Bytes -/

theorem remainders_eq (width n : Nat) : remainders width n = Bytes.littleEndian width n := by
  induction width generalizing n with
  | zero => rfl
  | succ width ih =>
      have hbyte : UInt8.ofNat (n % 256) = UInt8.ofNat n := by
        apply UInt8.toNat_inj.mp
        rw [UInt8.toNat_ofNat', UInt8.toNat_ofNat']
        exact Nat.mod_mod n 256
      rw [remainders, Bytes.littleEndian_succ, hbyte, ih]

theorem padding_eq (nameLength contentLength : Nat) :
    padding nameLength contentLength =
      Directory.roundUp (88 + nameLength + contentLength) - (88 + nameLength + contentLength) := by
  rw [padding, Directory.roundUp_eq]
  omega

/-- The record that stands for a user, with the stand-in's salt and hash. -/
def recordOf (name content : Bytes) : Record where
  username := name
  salt := List.replicate 16 saltByte
  hash := List.replicate 32 hashByte
  content := content

theorem rawLength_recordOf (name content : Bytes) :
    (recordOf name content).rawLength = 88 + name.length + content.length := by
  have hmarker : Directory.marker.length = 8 := rfl
  simp only [Record.rawLength, recordOf, hmarker, Directory.lengthWidth, List.length_replicate]
  omega

/-- **THE WRITER AND THE ENCODER AGREE ON A RECORD**, for every name and every content. -/
theorem recordBytes_eq (name content : Bytes) : recordBytes name content = (recordOf name content).encoded := by
  rw [Directory.encoded_eq, rawLength_recordOf, ← padding_eq]
  simp only [recordBytes, lengthBytes, remainders_eq, recordOf, Record.encodeField,
    List.length_replicate, List.append_assoc]
  rfl

theorem directoryBytes_eq (users : List (Bytes × Bytes)) :
    directoryBytes users = Directory.encode (users.map fun user => recordOf user.1 user.2) := by
  rw [Directory.encode_eq_flatMap, List.flatMap_map, directoryBytes]
  simp only [recordBytes_eq]

/-! ## Names -/

/-- A name that a user may have: a name for files of ASCII characters, on one line and without
    backslashes. -/
structure IsUserName (name : String) : Prop extends Path.IsName name where
  ascii : ∀ c ∈ name.toList, c.toNat < 0x80
  noNul : '\x00' ∉ name.toList
  noFeed : '\n' ∉ name.toList
  noBackslash : '\\' ∉ name.toList

instance (name : String) : Decidable (IsUserName name) :=
  decidable_of_iff (Path.IsName name ∧ (name.toList.all fun c => decide (c.toNat < 0x80)) = true ∧
      '\x00' ∉ name.toList ∧ '\n' ∉ name.toList ∧ '\\' ∉ name.toList) <| by
    simp only [List.all_eq_true, decide_eq_true_eq]
    exact ⟨fun ⟨hname, hascii, hnul, hfeed, hslash⟩ => ⟨hname, hascii, hnul, hfeed, hslash⟩,
      fun h => ⟨h.toIsName, h.ascii, h.noNul, h.noFeed, h.noBackslash⟩⟩

/-- The name of which the shell's `echo` prints nothing: it takes it for an option. -/
def optionName : String := "-n"

theorem echoArgument_of_plain {bound : Nat} {chars : Chars} (hbound : chars.length ≤ bound)
    (hplain : '\\' ∉ chars) : Text.echoArgument bound chars = (chars, false) := by
  induction chars generalizing bound with
  | nil => cases bound <;> rfl
  | cons c rest ih =>
      obtain ⟨more, rfl⟩ : ∃ more, bound = more + 1 := Nat.exists_eq_succ_of_ne_zero (by
        rw [List.length_cons] at hbound
        omega)
      have hrest := ih (Nat.le_of_succ_le_succ hbound) fun hmem => hplain (List.mem_cons_of_mem c hmem)
      have hc : c ≠ '\\' := fun heq => hplain (heq ▸ List.mem_cons_self)
      rw [Text.echoArgument, hrest]
      exact hc

theorem backslash_notMem_narrow {name : String} (h : '\\' ∉ name.toList) :
    '\\' ∉ Text.narrow name := by
  intro hmem
  obtain ⟨b, hb, hchar⟩ := List.mem_map.mp hmem
  have hbyte : b.toNat = 92 := (Text.toNat_ofNat_octet b.toNat_lt).symm.trans (congrArg Char.toNat hchar)
  obtain ⟨c, hc, hcb⟩ := List.mem_flatMap.mp hb
  have hnat : c.toNat = 92 := (Text.toNat_eq_of_mem_utf8EncodeChar (by omega) hcb).symm.trans hbyte
  exact h ((Char.toNat_inj.mp hnat : c = '\\') ▸ hc)

theorem narrow_injective : Function.Injective Text.narrow := by
  intro a b h
  have hbytes := congrArg Text.ofOctets h
  rw [Text.narrow, Text.narrow, Text.ofOctets_octets, Text.ofOctets_octets] at hbytes
  exact Text.encode_injective hbytes

theorem echoLine_optionName : Text.echoLine optionName = [] := by decide

/-- A name is echoed as a line, unless it is taken for an option. -/
theorem echoLine_of_ne {name : String} (hplain : '\\' ∉ name.toList) (hne : name ≠ optionName) :
    Text.echoLine name = Text.encode name ++ [10] := by
  have hoption : Text.narrow name ≠ ['-', 'n'] := fun heq => hne (narrow_injective heq)
  have hargument := echoArgument_of_plain (Nat.le_refl (Text.narrow name).length)
    (backslash_notMem_narrow hplain)
  have hecho : Text.echo [Text.narrow name] = Text.narrow name ++ ['\n'] := by
    rw [Text.echo, Text.echoArguments, hargument]
    · intro rest heq
      exact hoption (List.cons.inj heq).1
  rw [Text.echoLine, hecho, Text.ofOctets, List.map_append]
  exact congrArg (· ++ [10]) (Text.ofOctets_octets (Text.encode name))

/-- What the file of names holds once users have been registered one after the other. -/
def orderBytes (names : List String) : Bytes := names.flatMap Text.echoLine

theorem orderBytes_append (names : List String) (name : String) :
    orderBytes (names ++ [name]) = orderBytes names ++ Text.echoLine name := by
  rw [orderBytes, List.flatMap_append, List.flatMap_singleton, orderBytes]

/-- **The lines of the file of names** are the names in order, without the one that is taken for an
    option. -/
theorem feedLines_orderBytes {names : List String} (h : ∀ name ∈ names, IsUserName name) :
    feedLines (orderBytes names) = (names.filter (· ≠ optionName)).map Text.encode := by
  induction names with
  | nil => rfl
  | cons name rest ih =>
      have hrest := ih fun other hother => h other (List.mem_cons_of_mem name hother)
      rw [orderBytes, List.flatMap_cons]
      -- the option leaves no line; every other line ends at its own feed, as the name has none
      by_cases hoption : name = optionName
      · rw [hoption, echoLine_optionName, List.filter_cons_of_neg (by simp)]
        exact hrest
      · have hname := h name List.mem_cons_self
        have hfeed := Text.feed_notMem_encode hname.noFeed
        rw [echoLine_of_ne hname.noBackslash hoption,
          List.filter_cons_of_pos (by simpa using hoption), List.map_cons, ← hrest, feedLines,
          List.append_assoc, List.singleton_append, List.splitOn_append_cons_self_of_not_mem hfeed,
          List.dropLast_cons_of_ne_nil (List.splitOn_ne_nil 10 _)]
        rfl

end Conformance.Standin
