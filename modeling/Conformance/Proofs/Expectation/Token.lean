import Conformance.Expectation
import Conformance.Proofs.LineReader.Transcript
import Conformance.Proofs.Text.Lossy
import Conformance.Reply

/-!
# A token is the only line that passes for it

A line is compared after it was read as text and its terminator was cut off, and neither step can be
undone: many byte strings are read as one text. Yet a token can be told from everything else. It has no
replacement character, so only its own bytes are read as it, and it has no terminator to lose, so a
line that became it lost a whole terminator, half of one or nothing (`lineText_eq_token_iff`).

Which bytes a read took is a matter of the stream alone: `rawLines` is the transcript of a stream before
anything was read as text (`transcriptOf_eq`).
-/

namespace Conformance

/-! ## The bytes behind a transcript -/

namespace LineReader

/-- The terminated lines of a segment as bytes, terminators included. -/
def terminatedBytes (segment : Bytes) : List Bytes := (segment.splitOn 10).dropLast.map (· ++ [10])

/-- The lines of segments as bytes. A failure, which ends every segment but the last, has none. -/
def rawLines (closed : Bool) : List Bytes → List (Option Bytes)
  | [] => []
  | [last] =>
    (terminatedBytes last).map some ++
      if closed ∧ unterminated last ≠ [] then [some (unterminated last)] else []
  | segment :: rest => (terminatedBytes segment).map some ++ none :: rawLines closed rest

/-- What a reader tells of bytes, or of a failure. -/
def told : Option Bytes → ReadLine
  | some raw => .line (lineText raw)
  | none => .eof

/-- The bytes of the line that the stream of a schedule has at a position. -/
def rawLine? (events : List Event) (k : Nat) : Option Bytes :=
  ((rawLines (closes events) (segments (delivered events)))[k]?).join

theorem terminated_eq (segment : Bytes) :
    terminated segment = ((terminatedBytes segment).map some).map told := by
  rw [terminated, terminatedBytes, List.map_map, List.map_map]
  rfl

/-- **A transcript tells the lines of its stream.** -/
theorem transcriptOf_eq (closed : Bool) (segments : List Bytes) :
    transcriptOf closed segments = (rawLines closed segments).map told := by
  fun_induction rawLines closed segments with
  | case1 => rfl
  | case2 last =>
      rw [transcriptOf, List.map_append, terminated_eq]
      split <;> rfl
  | case3 segment rest hrest ih =>
      rw [transcriptOf_cons (fun hnil => hrest hnil), List.map_append, terminated_eq, ih]
      rfl

/-- A stream has a line at a position if it has its bytes there. -/
theorem promised_line_iff {events : List Event} {k : Nat} {text : String} :
    promised events k = some (.line text) ↔
      ∃ raw, rawLine? events k = some raw ∧ lineText raw = text := by
  rw [promised, nth, transcript, transcriptOf_eq, List.getElem?_map, rawLine?]
  generalize (rawLines (closes events) (segments (delivered events)))[k]? = entry
  rcases entry with _ | _ | raw
  · cases closes events <;> simp
  · simp [told]
  · simp [told]

end LineReader

/-! ## Tokens -/

namespace Expectation

/-- A text that lines are compared with: not empty, one line without a terminator, and free of the
    character that stands for bytes that are not text. -/
structure Token (text : String) : Prop extends LineReader.Plain text where
  nonempty : text ≠ ""
  readable : Text.replacement ∉ text.toList

instance (text : String) : Decidable (Token text) :=
  decidable_of_iff
    (('\n' ∉ text.toList ∧ text.toList.getLast? ≠ some '\r') ∧
      text ≠ "" ∧ Text.replacement ∉ text.toList)
    ⟨fun h => ⟨⟨h.1.1, h.1.2⟩, h.2.1, h.2.2⟩,
      fun h => ⟨⟨h.feed, h.carriage⟩, h.nonempty, h.readable⟩⟩

/-- What may stand behind a token for its line to be the token: a terminator, half of one, or nothing
    where the stream ends. -/
def terminators : List Bytes := [[], [10], [13], [13, 10]]

/-- **Only a token and what may stand behind it make a line that is the token.** -/
theorem lineText_eq_token_iff {text : String} (h : Token text) (raw : Bytes) :
    LineReader.lineText raw = text ↔
      ∃ terminator ∈ terminators, raw = Text.encode text ++ terminator := by
  have hfeed : text.toList.getLast? ≠ some '\n' := fun hlast => h.feed (List.mem_of_getLast? hlast)
  have hcarriage : (text.toList ++ ['\r']).getLast? ≠ some '\n' := by
    rw [List.getLast?_concat]
    decide
  -- an ending of ASCII brings no replacement with it, so the text has its own bytes alone
  have hread (ending : String) (hending : Text.replacement ∉ ending.toList) :
      (Text.decode raw).toList = text.toList ++ ending.toList ↔
        raw = Text.encode text ++ Text.encode ending := by
    rw [← String.toList_append, String.toList_inj, Text.decode_eq_iff, Text.encode_append]
    rw [String.toList_append, List.mem_append]
    exact fun hmem => hmem.elim h.readable hending
  have hnone : (Text.decode raw).toList = text.toList ↔ raw = Text.encode text ++ [] := by
    rw [String.toList_inj, Text.decode_eq_iff h.readable, List.append_nil]
  have hlf : _ ↔ raw = Text.encode text ++ [10] := hread "\n" (by decide)
  have hcr : _ ↔ raw = Text.encode text ++ [13] := hread "\r" (by decide)
  have hcrlf : _ ↔ raw = Text.encode text ++ [13, 10] := hread "\r\n" (by decide)
  rw [LineReader.lineText, Text.trimTerminator, ← String.toList_inj, String.toList_ofList,
    Text.dropLastIf_eq_iff h.carriage, Text.dropLastIf_eq_iff hfeed,
    Text.dropLastIf_eq_iff hcarriage, List.append_assoc, hnone]
  refine (or_congr (or_congr_right hlf) (or_congr hcr hcrlf)).trans ?_
  simp only [terminators, List.mem_cons, List.not_mem_nil, or_false, exists_eq_or_imp,
    exists_eq_left, or_assoc]

/-! ## Which lines are tokens -/

theorem token_reply (reply : Reply) : Token reply.token := by
  cases reply <;> decide

/-- The lines of a server whose text does not depend on how it was set up. -/
def fixedLines : List String :=
  waitingLine :: terminatedLine :: connectedAddresses.map (connectedPrefix ++ ·)

theorem token_fixedLines : ∀ text ∈ fixedLines, Token text := by decide

/-! ## Reading a token -/

theorem line_passed_iff {description expected : String} (h : Token expected) (seen : ReadLine) :
    (line description expected seen).passed = true ↔ seen = .line expected := by
  rw [line, Outcome.passed_compare]
  cases seen with
  | line text => exact ⟨congrArg ReadLine.line ∘ Eq.symm, fun heq => (ReadLine.line.inj heq).symm⟩
  | eof | timedOut => exact ⟨fun hempty => absurd hempty h.nonempty, nofun⟩

/-- **A check of a token passes for the token and for nothing else.** Replies and the fixed lines of a
    server are tokens. Whatever a stream delivers and however its pieces are cut, read and looked at, the
    check of a token passes just if it read a line whose bytes, terminator included, are those of the
    token with a terminator, half of one or nothing behind them. -/
theorem expectLine_passes_iff :
    (∀ reply : Reply, Token reply.token) ∧ (∀ text ∈ fixedLines, Token text) ∧
    ∀ events, LineReader.Timed events → ∀ description expected, Token expected →
      (((LineReader.fresh.play events).expectLine description expected).1.passed = true ↔
        ∃ raw, LineReader.rawLine? events (LineReader.answered .fresh events).length = some raw ∧
          (LineReader.fresh.play events).read.1 = .line (LineReader.lineText raw) ∧
          ∃ terminator ∈ terminators, raw = Text.encode expected ++ terminator) := by
  refine ⟨token_reply, token_fixedLines, fun events htimed description expected hexpected => ?_⟩
  have hread := LineReader.read_play htimed
  rw [LineReader.expectLine, line_passed_iff hexpected]
  constructor
  · intro hseen
    have hpromised : LineReader.promised events (LineReader.answered .fresh events).length =
        some (.line expected) := by
      rw [hseen] at hread
      cases hnext : LineReader.promised events (LineReader.answered .fresh events).length with
      | none =>
          rw [hnext] at hread
          exact nomatch hread
      | some next =>
          rw [hnext] at hread
          exact congrArg some hread.symm
    obtain ⟨raw, hraw, htext⟩ := LineReader.promised_line_iff.mp hpromised
    exact ⟨raw, hraw, hseen.trans (congrArg ReadLine.line htext.symm),
      (lineText_eq_token_iff hexpected raw).mp htext⟩
  · rintro ⟨raw, -, hseen, hterminator⟩
    rw [hseen, (lineText_eq_token_iff hexpected raw).mpr hterminator]

/-- A reply that arrives in three pieces, cut inside the token and inside its terminator, with a look
    and reads that come too early. -/
def piecemeal : List LineReader.Event :=
  [.arrive (.bytes [95, 95, 95, 79]), .read, .peek, .arrive (.bytes [75, 95, 95, 95, 13]), .read,
    .arrive (.bytes [10])]

theorem expectLine_passes_iff_piecemeal :
    LineReader.Timed piecemeal ∧ Token Reply.ok.token ∧
      ∃ raw, LineReader.rawLine? piecemeal (LineReader.answered .fresh piecemeal).length = some raw ∧
        (LineReader.fresh.play piecemeal).read.1 = .line (LineReader.lineText raw) ∧
        ∃ terminator ∈ terminators, raw = Text.encode Reply.ok.token ++ terminator :=
  ⟨by decide, token_reply .ok,
    (expectLine_passes_iff.2.2 piecemeal (by decide) "reply" Reply.ok.token (by decide)).mp
      (by decide +kernel)⟩

end Expectation

end Conformance
