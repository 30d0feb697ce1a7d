import Conformance.Proofs.LineReader.Transcript
import Conformance.Proofs.Text.Lossy
import Mathlib.Data.List.DropRight

/-!
# Two ways to cut text into lines

A line reader cuts bytes at their feeds and reads each piece as text; the entries of a list are cut
from a text that was read as a whole. It makes no difference where the text is read, because a feed is
read as itself whatever stands around it (`toList_decode_ascii`) and nothing else is read as one. What
differs is the end of a line: a reader cuts off one carriage return, a list all of them
(`dropLastIf_eq_rdropWhile_iff`).

Both ways go through the bytes line by line, so one induction compares them (`lineInduction`).
-/

namespace Conformance

/-! ## Entries of a text -/

namespace Text

theorem rdropWhile_concat_self (c : Char) (cs : List Char) :
    (cs ++ [c]).rdropWhile (· = c) = cs.rdropWhile (· = c) :=
  List.rdropWhile_concat_pos _ cs c (decide_eq_true rfl)

theorem rdropWhile_dropLastIf (c : Char) (cs : List Char) :
    (dropLastIf c cs).rdropWhile (· = c) = cs.rdropWhile (· = c) := by
  by_cases h : cs.getLast? = some c
  · obtain ⟨init, rfl⟩ := List.getLast?_eq_some_iff.mp h
    rw [dropLastIf_concat, rdropWhile_concat_self]
  · rw [dropLastIf_of_ne h]

theorem eq_rdropWhile_iff (c : Char) (cs : List Char) :
    cs = cs.rdropWhile (· = c) ↔ cs.getLast? ≠ some c := by
  rw [eq_comm, List.rdropWhile_eq_self_iff]
  constructor
  · intro h hlast
    obtain ⟨init, rfl⟩ := List.getLast?_eq_some_iff.mp hlast
    exact h (by simp) (decide_eq_true List.getLast_concat)
  · intro h hne hlast
    rw [List.getLast?_eq_some_getLast hne, of_decide_eq_true hlast] at h
    exact h rfl

/-- **To lose one character at the end is to lose all of its kind, unless there are two.** -/
theorem dropLastIf_eq_rdropWhile_iff (c : Char) (cs : List Char) :
    dropLastIf c cs = cs.rdropWhile (· = c) ↔ ¬ [c, c] <:+ cs := by
  by_cases h : cs.getLast? = some c
  · obtain ⟨init, rfl⟩ := List.getLast?_eq_some_iff.mp h
    rw [dropLastIf_concat, rdropWhile_concat_self, eq_rdropWhile_iff, Ne,
      ← List.singleton_suffix_iff_getLast?_eq_some]
    have hpair : [c] ++ [c] <:+ init ++ [c] ↔ [c] <:+ init := List.suffix_append_self_iff
    exact not_congr hpair.symm
  · rw [dropLastIf_of_ne h, eq_rdropWhile_iff]
    refine iff_of_true h fun hsuffix => h ?_
    rw [← List.singleton_suffix_iff_getLast?_eq_some]
    exact (List.suffix_append [c] [c]).trans hsuffix

theorem lines_line {front : String} (h : '\n' ∉ front.toList) (rest : String) :
    lines (front ++ "\n" ++ rest) = .ofList (dropLastIf '\r' front.toList) :: lines rest := by
  have hne := List.splitOn_ne_nil '\n' rest.toList
  have hsplit : (front ++ "\n" ++ rest).toList.splitOn '\n' =
      front.toList :: rest.toList.splitOn '\n' := by
    rw [String.toList_append, String.toList_append, List.append_assoc]
    exact List.splitOn_append_cons_self_of_not_mem h rest.toList
  rw [lines, lines, hsplit, List.dropLast_cons_of_ne_nil hne, List.getLast?_cons_of_ne_nil hne]
  rfl

theorem lines_begun {text : String} (h : '\n' ∉ text.toList) :
    lines text = if text = "" then [] else [text] := by
  rw [lines, List.splitOn_eq_singleton h]
  show List.map String.ofList (if text.toList = [] then [] else [text.toList]) = _
  simp only [String.toList_eq_nil_iff]
  split
  · rfl
  · rw [List.map_singleton, String.ofList_toList]

/-- An entry has lost all carriage returns at its end. -/
def entry (line : String) : String := .ofList (line.toList.rdropWhile (· = '\r'))

theorem entries_line {front : String} (h : '\n' ∉ front.toList) (rest : String) :
    entries (front ++ "\n" ++ rest) = entry front :: entries rest := by
  rw [entries, lines_line h, List.map_cons, String.toList_ofList]
  exact congrArg (String.ofList · :: _) (rdropWhile_dropLastIf '\r' front.toList)

theorem entries_begun {text : String} (h : '\n' ∉ text.toList) :
    entries text = if text = "" then [] else [entry text] := by
  rw [entries, lines_begun h, apply_ite (List.map _)]
  rfl

end Text

namespace LineReader

/-! ## The lines of bytes -/

/-- Bytes are lines with their feeds, and behind them bytes without a feed. -/
theorem lineInduction {motive : Bytes → Prop} (begun : ∀ {begun}, 10 ∉ begun → motive begun)
    (line : ∀ {line rest}, 10 ∉ line → motive rest → motive (line ++ 10 :: rest)) (bytes : Bytes) :
    motive bytes := by
  by_cases hfeed : 10 ∈ bytes
  · obtain ⟨before, after, hbytes, hbefore⟩ := List.eq_append_cons_of_mem hfeed
    have hshort : after.length < bytes.length := by
      rw [hbytes, List.length_append, List.length_cons]
      omega
    exact hbytes ▸ line hbefore (lineInduction begun line after)
  · exact begun hfeed
termination_by bytes.length

theorem feed_notMem_decode {bytes : Bytes} (h : 10 ∉ bytes) : '\n' ∉ (Text.decode bytes).toList :=
  fun hmem => h (Text.mem_of_mem_decode (c := '\n') (by decide) hmem)

/-- A feed is read as itself whatever stands around it. -/
theorem decode_line (line rest : Bytes) :
    Text.decode (line ++ 10 :: rest) = Text.decode line ++ "\n" ++ Text.decode rest := by
  rw [← String.toList_inj, Text.toList_decode_ascii line rest (by decide), String.toList_append,
    String.toList_append, List.append_assoc]
  rfl

/-- Bytes end in two carriage returns just if they are read as a text that does. -/
theorem returns_suffix_iff (bytes : Bytes) :
    ['\r', '\r'] <:+ (Text.decode bytes).toList ↔ [13, 13] <:+ bytes := by
  constructor
  · rintro ⟨front, h⟩
    rw [List.append_cons] at h
    obtain ⟨init, rfl, hinit⟩ := (Text.decode_eq_concat_iff (b := 13) (by decide)).mp h.symm
    obtain ⟨front, rfl, -⟩ := (Text.decode_eq_concat_iff (b := 13) (by decide)).mp hinit
    exact ⟨front, List.append_cons front 13 [13]⟩
  · rintro ⟨front, rfl⟩
    refine ⟨(Text.decode front).toList, ?_⟩
    rw [List.append_cons front, Text.toList_decode_concat _ (by decide),
      Text.toList_decode_concat _ (by decide), List.append_assoc]
    rfl

/-- The text of a line whose feed is cut off. -/
def trimmed (line : Bytes) : String := .ofList (Text.dropLastIf '\r' (Text.decode line).toList)

theorem lineText_line (line : Bytes) : lineText (line ++ [10]) = trimmed line := by
  rw [lineText, Text.trimTerminator, Text.toList_decode_concat _ (by decide)]
  exact congrArg (String.ofList <| Text.dropLastIf '\r' ·) (Text.dropLastIf_concat '\n' _)

theorem lineText_begun {bytes : Bytes} (h : 10 ∉ bytes) : lineText bytes = trimmed bytes := by
  have hlast : (Text.decode bytes).toList.getLast? ≠ some '\n' := fun hlast =>
    feed_notMem_decode h (List.mem_of_getLast? hlast)
  rw [lineText, Text.trimTerminator, Text.dropLastIf_of_ne hlast, trimmed]

/-- A reader and a list cut the same from the end of a line, unless that is two carriage returns. -/
theorem trimmed_eq_entry_iff (line : Bytes) :
    trimmed line = Text.entry (Text.decode line) ↔ ¬ [13, 13] <:+ line := by
  rw [trimmed, Text.entry, String.ofList_inj, Text.dropLastIf_eq_rdropWhile_iff, returns_suffix_iff]

/-- **What a stream that ends says is what a list of its text says, unless a line ends in two carriage
    returns.** -/
theorem transcript_eq_entries_iff (bytes : Bytes) :
    ∃ lines : List String, transcript [.bytes bytes] true = lines.map .line ∧
      (lines = Text.entries (Text.decode bytes) ↔
        ∀ segment ∈ bytes.splitOn 10, ¬ [13, 13] <:+ segment) := by
  induction bytes using lineInduction with
  | @begun begun h =>
      rw [transcript_begun h, List.splitOn_eq_singleton h, Text.entries_begun (feed_notMem_decode h),
        List.forall_mem_singleton]
      by_cases hbegun : begun = []
      · rw [hbegun]
        exact ⟨[], rfl, iff_of_true rfl (by decide)⟩
      · have htext : Text.decode begun ≠ "" := fun hempty =>
          Text.decode_ne_empty hbegun (congrArg String.toList hempty)
        rw [if_pos ⟨rfl, hbegun⟩, if_neg htext, lineText_begun h, ← trimmed_eq_entry_iff]
        exact ⟨[trimmed begun], rfl, List.singleton_inj⟩
  | @line line rest h ih =>
      obtain ⟨lines, htranscript, hlines⟩ := ih
      refine ⟨trimmed line :: lines, ?_, ?_⟩
      · rw [List.append_cons line 10 rest, ← transcript_bytes_append, transcript_line h, htranscript,
          lineText_line, List.map_cons]
      · rw [decode_line, Text.entries_line (feed_notMem_decode h), List.cons.injEq,
          trimmed_eq_entry_iff, hlines, List.splitOn_append_cons_self_of_not_mem h,
          List.forall_mem_cons]

/-! ## Reading to the end -/

theorem segments_map_bytes (chunks : List Bytes) :
    segments (chunks.map .bytes) = [chunks.flatten] := by
  induction chunks with
  | nil => rfl
  | cons chunk rest ih => rw [List.map_cons, segments_bytes, ih, List.flatten_cons, List.modifyHead_cons]

/-- Where the bytes of a stream without failures were cut does not matter. -/
theorem transcript_map_bytes (chunks : List Bytes) (closed : Bool) :
    transcript (chunks.map .bytes) closed = transcript [.bytes chunks.flatten] closed := by
  rw [transcript, transcript, segments_map_bytes, segments_bytes]
  exact congrArg (transcriptOf closed [·]) (List.append_nil _).symm

theorem nth_cons_inj {line line' : ReadLine} {lines lines' : List ReadLine} {closed : Bool}
    (h : nth (line :: lines) closed = nth (line' :: lines') closed) :
    line = line' ∧ nth lines closed = nth lines' closed :=
  ⟨Option.some.inj (congrFun h 0), funext fun k => congrFun h (k + 1)⟩

/-- A closed reader is never starved: what it reads is the first of what it has in store. -/
theorem Sound.read_closed {reader : LineReader} (h : reader.Sound) (hclosed : reader.closed = true) :
    reader.read.2.closed = true ∧ nth (reader.upcoming [] true) true =
      nth (reader.read.1 :: reader.read.2.upcoming [] true) true := by
  have hread := h.read
  have hafter : reader.read.2.closed = true := hread.closed.trans hclosed
  have hheard : reader.read.1 ≠ .timedOut := fun hstarved =>
    nomatch hafter.symm.trans (hread.starved hstarved).1
  refine ⟨hafter, ?_⟩
  rw [hread.upcoming [] true fun _ => ⟨rfl, rfl⟩, heard_of_ne hheard, List.singleton_append]

/-- **A closed reader gives what it has in store, and then says that this was all.** -/
theorem readMany_closed {reader : LineReader} (h : reader.Sound) (hclosed : reader.closed = true)
    {lines : List ReadLine} (hlines : nth (reader.upcoming [] true) true = nth lines true) :
    (reader.readMany (lines.length + 1)).1 = lines ++ [.eof] := by
  induction lines generalizing reader with
  | nil =>
      have hread := (h.read_closed hclosed).2.symm.trans (hlines.trans nth_eof.symm)
      exact congrArg (· :: []) (nth_cons_inj hread).1
  | cons line lines ih =>
      obtain ⟨hafter, hread⟩ := h.read_closed hclosed
      obtain ⟨hline, hrest⟩ := nth_cons_inj (hread.symm.trans hlines)
      exact congrArg₂ List.cons hline (ih h.read.sound hafter hrest)

/-- **A reader and a list cut the same lines from bytes, unless one of them ends in two carriage
    returns.** However the bytes were cut into chunks: up to its first answer that its source has ended,
    a reader gives the entries of the text of all bytes just if no stretch between two feeds, nor the
    one behind the last, ends in two carriage returns or more. -/
theorem lines_eq_entries_iff (chunks : List Bytes) :
    ∃ lines : List String,
      (readMany (lines.length + 1) ⟨chunks.map .bytes, true, [], none⟩).1 =
        lines.map .line ++ [.eof] ∧
      (lines = Text.entries (Text.decode chunks.flatten) ↔
        ∀ segment ∈ chunks.flatten.splitOn 10, ¬ [13, 13] <:+ segment) := by
  obtain ⟨lines, htranscript, hlines⟩ := transcript_eq_entries_iff chunks.flatten
  refine ⟨lines, ?_, hlines⟩
  have hstore : upcoming ⟨chunks.map .bytes, true, [], none⟩ [] true = lines.map .line := by
    rw [← htranscript, ← transcript_map_bytes, ← transcript_bytes_nil, upcoming, List.append_nil]
    rfl
  have hsound : Sound ⟨chunks.map .bytes, true, [], none⟩ :=
    ⟨sound_fresh.begun, sound_fresh.peeked⟩
  have hread := readMany_closed hsound rfl (congrArg (nth · true) hstore)
  rw [List.length_map] at hread
  exact hread

/-- Of two carriage returns before a feed one stays with a reader, and none with a list. -/
example :
    (readMany 2 ⟨[.bytes [97, 13], .bytes [13, 10]], true, [], none⟩).1 = [.line "a\r", .eof] ∧
      Text.entries (Text.decode [97, 13, 13, 10]) = ["a"] := by
  decide +kernel

end LineReader

end Conformance
