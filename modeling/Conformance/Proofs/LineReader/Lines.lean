import Conformance.Machine.Basic
import Conformance.Proofs.Text.Joined
import Conformance.Proofs.Text.Utf8
import Conformance.Text.Decimal

/-!
# Lines of a stream that arrives in pieces

Where the pieces of a stream were cut is the business of the reader alone. `Unread reader bytes` says
which bytes of a stream the reader has been given and has not handed out yet; the unfinished line, the
pieces and a line that was looked at all count. A read takes the first line of these bytes
(`Unread.read`), a look leaves them as they are (`Unread.peek`), and what is delivered comes behind them
(`Unread.deliver`). Nothing else of the reader matters as long as the stream neither fails nor ends.

Written as bytes and read again, a plain line is itself: `lineText_encode`.
-/

namespace Conformance.LineReader

/-! ## Cutting a chunk -/

theorem cutLine?_line {before : Bytes} (h : 10 ∉ before) (rest : Bytes) :
    cutLine? (before ++ 10 :: rest) = some (before ++ [10], rest) := by
  rw [cutLine?, Text.span_separator h]

theorem cutLine?_of_notMem {chunk : Bytes} (h : 10 ∉ chunk) : cutLine? chunk = none := by
  rw [cutLine?, Text.span_of_notMem h]

/-! ## Scanning pieces -/

/-- **The next line of a stream is found wherever its pieces were cut.** -/
theorem scan_line (closed : Bool) {line rest : Bytes} (hline : 10 ∉ line) (unfinished : Bytes)
    (hunfinished : 10 ∉ unfinished) (chunks : List Bytes)
    (h : unfinished ++ chunks.flatten = line ++ 10 :: rest) :
    ∃ left : List Bytes, left.flatten = rest ∧
      scan closed unfinished (chunks.map .bytes) =
        (.line (lineText (line ++ [10])), ⟨left.map .bytes, closed, [], none⟩) := by
  induction chunks generalizing unfinished with
  | nil =>
      have hmem : 10 ∈ unfinished ++ ([] : List Bytes).flatten := by
        rw [h]
        exact List.mem_append_right _ List.mem_cons_self
      rw [List.flatten_nil, List.append_nil] at hmem
      exact absurd hmem hunfinished
  | cons chunk chunks ih =>
      rw [List.map_cons, scan]
      by_cases hmem : 10 ∈ chunk
      -- the line ends in this piece: what stands before the feed completes it
      · obtain ⟨before, after, rfl, hbefore⟩ := List.eq_append_cons_of_mem hmem
        have hbegun : 10 ∉ unfinished ++ before := fun hm =>
          (List.mem_append.mp hm).elim hunfinished hbefore
        have hcut : (unfinished ++ before) ++ 10 :: (after ++ chunks.flatten) =
            line ++ 10 :: rest := by
          rw [← h, List.flatten_cons]
          simp only [List.append_assoc, List.cons_append]
        obtain ⟨rfl, rfl⟩ := Text.separator_inj hbegun hline hcut
        rw [cutLine?_line hbefore]
        by_cases hafter : after = []
        · refine ⟨chunks, by rw [hafter, List.nil_append], ?_⟩
          dsimp only
          rw [if_pos hafter, List.append_assoc]
        · refine ⟨after :: chunks, List.flatten_cons, ?_⟩
          dsimp only
          rw [if_neg hafter, List.append_assoc, List.map_cons]
      -- the whole piece belongs to the line that was begun
      · rw [cutLine?_of_notMem hmem]
        refine ih (unfinished ++ chunk) ?_ ?_
        · exact fun hm => (List.mem_append.mp hm).elim hunfinished hmem
        · rw [List.append_assoc, ← List.flatten_cons, h]

/-! ## Lines as bytes -/

/-- A text that is one line, and stays itself when its terminator is cut off. -/
structure Plain (line : String) : Prop where
  feed : '\n' ∉ line.toList
  carriage : line.toList.getLast? ≠ some '\r'

/-- A text that contributes no terminator to a line that it is a part of. -/
structure OneLine (text : String) : Prop where
  feed : '\n' ∉ text.toList
  carriage : '\r' ∉ text.toList

theorem OneLine.plain {text : String} (h : OneLine text) : Plain text :=
  ⟨h.feed, fun hlast => h.carriage (List.mem_of_getLast? hlast)⟩

theorem oneLine_append {a b : String} (ha : OneLine a) (hb : OneLine b) : OneLine (a ++ b) := by
  constructor
  · rw [String.toList_append, List.mem_append]
    exact fun h => h.elim ha.feed hb.feed
  · rw [String.toList_append, List.mem_append]
    exact fun h => h.elim ha.carriage hb.carriage

theorem oneLine_decimal (n : Nat) : OneLine (Text.decimal n) :=
  ⟨fun h => absurd (Text.isDigit_of_mem_decimal h) (by decide),
    fun h => absurd (Text.isDigit_of_mem_decimal h) (by decide)⟩

/-- Lines as a program prints them. -/
def wire (lines : List String) : Bytes := lines.flatMap fun line => Text.encode line ++ [10]

theorem wire_cons (line : String) (rest : List String) :
    wire (line :: rest) = Text.encode line ++ 10 :: wire rest := by
  rw [wire, List.flatMap_cons, List.append_assoc]
  rfl

theorem wire_append (lines more : List String) : wire (lines ++ more) = wire lines ++ wire more :=
  List.flatMap_append

/-- **A plain line is read as it was printed.** -/
theorem lineText_encode {line : String} (h : Plain line) :
    lineText (Text.encode line ++ [10]) = line := by
  have hfeed : Text.encode line ++ [10] = Text.encode (line ++ "\n") := by
    rw [Text.encode_append]
    rfl
  have hdrop : Text.dropLastIf '\n' (line ++ "\n").toList = line.toList := by
    rw [String.toList_append]
    exact Text.dropLastIf_concat '\n' line.toList
  rw [lineText, hfeed, Text.decode_encode, Text.trimTerminator, hdrop,
    Text.dropLastIf_of_ne h.carriage, String.ofList_toList]

/-! ## What is unread -/

/-- The bytes that a reader has been given and has not handed out, when nobody looked ahead. -/
structure Pending (reader : LineReader) (bytes : Bytes) : Prop where
  unpeeked : reader.peeked = none
  begun : 10 ∉ reader.unfinished
  arrived : ∃ chunks : List Bytes, reader.arrived = chunks.map .bytes ∧
    bytes = reader.unfinished ++ chunks.flatten

/-- The bytes that a reader has been given and has not handed out; a line that was looked at is among
    them. -/
inductive Unread (reader : LineReader) : Bytes → Prop where
  | pending {bytes : Bytes} (pending : reader.Pending bytes) : Unread reader bytes
  | peeked {line rest : Bytes} (plain : 10 ∉ line)
      (peeked : reader.peeked = some (.line (lineText (line ++ [10]))))
      (pending : Pending { reader with peeked := none } rest) : Unread reader (line ++ 10 :: rest)

theorem unread_fresh : fresh.Unread [] :=
  .pending ⟨rfl, List.not_mem_nil, [], rfl, rfl⟩

theorem Pending.deliver {reader : LineReader} {bytes : Bytes} (h : reader.Pending bytes)
    {receipt : Receipt} {chunks : List Bytes} (hreceipt : receipt.arrived = chunks.map .bytes) :
    (reader.deliver receipt).Pending (bytes ++ chunks.flatten) := by
  obtain ⟨earlier, harrived, hbytes⟩ := h.arrived
  refine ⟨h.unpeeked, h.begun, earlier ++ chunks, ?_, ?_⟩
  · show reader.arrived ++ receipt.arrived = _
    rw [harrived, hreceipt, List.map_append]
  · show _ = reader.unfinished ++ _
    rw [hbytes, List.flatten_append, List.append_assoc]

/-- What is delivered comes behind everything else that is unread. -/
theorem Unread.deliver {reader : LineReader} {bytes : Bytes} (h : reader.Unread bytes)
    {receipt : Receipt} {chunks : List Bytes} (hreceipt : receipt.arrived = chunks.map .bytes) :
    (reader.deliver receipt).Unread (bytes ++ chunks.flatten) := by
  cases h with
  | pending h => exact .pending (h.deliver hreceipt)
  | peeked hplain hpeeked h =>
      rw [List.append_assoc, List.cons_append]
      exact .peeked hplain hpeeked (h.deliver hreceipt)

theorem Pending.read {reader : LineReader} {line rest : Bytes} (hline : 10 ∉ line)
    (h : reader.Pending (line ++ 10 :: rest)) :
    ∃ after : LineReader, after.Pending rest ∧ after.closed = reader.closed ∧
      scan reader.closed reader.unfinished reader.arrived =
        (.line (lineText (line ++ [10])), after) := by
  obtain ⟨chunks, harrived, hbytes⟩ := h.arrived
  obtain ⟨left, hleft, hscan⟩ :=
    scan_line reader.closed hline reader.unfinished h.begun chunks hbytes.symm
  refine ⟨⟨left.map .bytes, reader.closed, [], none⟩, ⟨rfl, List.not_mem_nil, left, rfl, ?_⟩, rfl, ?_⟩
  · rw [hleft]
    rfl
  · rw [harrived, hscan]

/-- **A read takes the first line of what is unread.** -/
theorem Unread.read {reader : LineReader} {line rest : Bytes} (hline : 10 ∉ line)
    (h : reader.Unread (line ++ 10 :: rest)) :
    reader.read.1 = .line (lineText (line ++ [10])) ∧ reader.read.2.Unread rest ∧
      reader.read.2.closed = reader.closed := by
  generalize hbytes : line ++ 10 :: rest = bytes at h
  cases h with
  | pending h =>
      obtain ⟨after, hafter, hclosed, hscan⟩ := Pending.read hline (hbytes ▸ h)
      rw [LineReader.read, h.unpeeked, hscan]
      exact ⟨rfl, .pending hafter, hclosed⟩
  | peeked hplain hpeeked h =>
      obtain ⟨rfl, rfl⟩ := Text.separator_inj hline hplain hbytes
      rw [LineReader.read, hpeeked]
      exact ⟨rfl, .pending h, rfl⟩

/-- **A look shows the first line and leaves it unread.** -/
theorem Unread.peek {reader : LineReader} {line rest : Bytes} (hline : 10 ∉ line)
    (h : reader.Unread (line ++ 10 :: rest)) :
    reader.peek.1 = .line (lineText (line ++ [10])) ∧
      reader.peek.2.Unread (line ++ 10 :: rest) ∧ reader.peek.2.closed = reader.closed := by
  generalize hbytes : line ++ 10 :: rest = bytes at h
  cases h with
  | pending h =>
      obtain ⟨after, hafter, hclosed, hscan⟩ := Pending.read hline (hbytes ▸ h)
      rw [LineReader.peek, h.unpeeked, hscan, ← hbytes]
      exact ⟨rfl, .peeked hline rfl ⟨rfl, hafter.begun, hafter.arrived⟩, hclosed⟩
  | peeked hplain hpeeked h =>
      obtain ⟨rfl, rfl⟩ := Text.separator_inj hline hplain hbytes
      rw [LineReader.peek, hpeeked]
      exact ⟨rfl, .peeked hplain hpeeked h, rfl⟩

theorem Pending.contains_feed {reader : LineReader} {bytes : Bytes} (h : reader.Pending bytes) :
    (reader.arrived.any fun arrival =>
      match arrival with
      | .failure => true
      | .bytes chunk => chunk.contains 10) = true ↔ 10 ∈ bytes := by
  obtain ⟨chunks, hchunks, rfl⟩ := h.arrived
  rw [hchunks, List.any_map, List.any_eq_true, List.mem_append, List.mem_flatten]
  constructor
  · rintro ⟨chunk, hchunk, hfeed⟩
    exact Or.inr ⟨chunk, hchunk, List.contains_iff_mem.mp hfeed⟩
  · rintro (hfeed | ⟨chunk, hchunk, hfeed⟩)
    · exact absurd hfeed h.begun
    · exact ⟨chunk, hchunk, List.contains_iff_mem.mpr hfeed⟩

/-- A reader needs nothing more if its source is closed or a whole line is unread. -/
theorem Unread.isReady_iff {reader : LineReader} {bytes : Bytes} (h : reader.Unread bytes) :
    reader.isReady = true ↔ reader.closed = true ∨ 10 ∈ bytes := by
  rw [isReady, Bool.or_eq_true, Bool.or_eq_true]
  cases h with
  | pending h =>
      refine Iff.trans (or_congr_right h.contains_feed) ?_
      rw [h.unpeeked]
      exact ⟨fun hready => hready.imp_left fun hclosed => hclosed.resolve_left (nomatch ·),
        fun hready => hready.imp_left Or.inr⟩
  | peeked hplain hpeeked h =>
      rw [hpeeked]
      exact ⟨fun _ => Or.inr (List.mem_append_right _ List.mem_cons_self),
        fun _ => Or.inl (Or.inl rfl)⟩

/-- What is unread of a stream begins with the stream's next line as soon as it holds a line feed. -/
theorem exists_line_of_feed {bytes more line rest : Bytes} (hline : 10 ∉ line)
    (h : bytes ++ more = line ++ 10 :: rest) (hfeed : 10 ∈ bytes) :
    ∃ left, bytes = line ++ 10 :: left ∧ left ++ more = rest := by
  obtain ⟨before, left, rfl, hbefore⟩ := List.eq_append_cons_of_mem hfeed
  rw [List.append_assoc, List.cons_append] at h
  obtain ⟨rfl, rfl⟩ := Text.separator_inj hbefore hline h
  exact ⟨left, rfl, rfl⟩

end Conformance.LineReader
