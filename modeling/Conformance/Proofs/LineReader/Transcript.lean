import Conformance.Proofs.LineReader.Lines

/-!
# The answers of a reader follow its stream

A reader is at the mercy of a schedule: pieces of bytes, failures and the end of its source come when
they come, and in between somebody reads or looks ahead, often too early. What the reads answer is
nevertheless settled by the stream alone. The stream is cut at its failures (`segments`), every segment
says its terminated lines, and a failure costs what stood unterminated before it (`transcript`).

The law behind this is one of conservation. `upcoming` is everything a reader has in store together with
what may still be delivered to it. An event moves the front of this sequence into the answers or leaves
it alone (`upcoming_happen`), so a whole schedule only moves a prefix of it (`upcoming_play`).
-/

namespace Conformance.LineReader

/-! ## The transcript of a stream -/

/-- The bytes that an arrival adds to a stream. -/
def content : Arrival → Bytes
  | .bytes chunk => chunk
  | .failure => []

/-- The bytes of a stream between its failures. -/
def segments (arrivals : List Arrival) : List Bytes :=
  (arrivals.splitOn .failure).map (List.flatMap content)

/-- The terminated lines of a segment. -/
def terminated (segment : Bytes) : List ReadLine :=
  (segment.splitOn 10).dropLast.map fun line => .line (lineText (line ++ [10]))

/-- What stands behind the last terminator of a segment. -/
def unterminated (segment : Bytes) : Bytes := (segment.splitOn 10).getLast?.getD []

/-- What segments say. Every segment but the last was ended by a failure; the last one is ended by the
    end of the source, if it has one. -/
def transcriptOf (closed : Bool) : List Bytes → List ReadLine
  | [] => []
  | [last] =>
    terminated last ++
      if closed ∧ unterminated last ≠ [] then [.line (lineText (unterminated last))] else []
  | segment :: rest => terminated segment ++ .eof :: transcriptOf closed rest

/-- What a stream says before it ends. -/
def transcript (arrivals : List Arrival) (closed : Bool) : List ReadLine :=
  transcriptOf closed (segments arrivals)

/-- The element at a position. Behind its lines a closed stream says that it has ended, forever; of an
    open one nothing is known there. -/
def nth (lines : List ReadLine) (closed : Bool) (k : Nat) : Option ReadLine :=
  lines[k]?.or (if closed then some .eof else none)

/-! ## Segments -/

theorem segments_ne_nil (arrivals : List Arrival) : segments arrivals ≠ [] := by
  rw [segments, Ne, List.map_eq_nil_iff]
  exact List.splitOn_ne_nil .failure arrivals

theorem segments_failure (rest : List Arrival) : segments (.failure :: rest) = [] :: segments rest := by
  rw [segments, List.splitOn_cons_eq_if_modifyHead, if_pos (beq_self_eq_true _), List.map_cons]
  rfl

/-- Bytes belong to the segment that is going on. -/
theorem segments_bytes (chunk : Bytes) (rest : List Arrival) :
    segments (.bytes chunk :: rest) = (segments rest).modifyHead (chunk ++ ·) := by
  obtain ⟨first, others, hsplit⟩ := List.exists_cons_of_ne_nil (List.splitOn_ne_nil .failure rest)
  rw [segments, segments, List.splitOn_cons_eq_if_modifyHead, if_neg (by simp), hsplit]
  rfl

theorem terminated_of_notMem {segment : Bytes} (h : 10 ∉ segment) : terminated segment = [] := by
  rw [terminated, List.splitOn_eq_singleton h]
  rfl

theorem unterminated_of_notMem {segment : Bytes} (h : 10 ∉ segment) :
    unterminated segment = segment := by
  rw [unterminated, List.splitOn_eq_singleton h]
  rfl

theorem terminated_line {line : Bytes} (h : 10 ∉ line) (rest : Bytes) :
    terminated (line ++ 10 :: rest) = .line (lineText (line ++ [10])) :: terminated rest := by
  rw [terminated, List.splitOn_append_cons_self_of_not_mem h,
    List.dropLast_cons_of_ne_nil (List.splitOn_ne_nil 10 rest), List.map_cons, terminated]

theorem unterminated_line {line : Bytes} (h : 10 ∉ line) (rest : Bytes) :
    unterminated (line ++ 10 :: rest) = unterminated rest := by
  rw [unterminated, List.splitOn_append_cons_self_of_not_mem h,
    List.getLast?_cons_of_ne_nil (List.splitOn_ne_nil 10 rest), unterminated]

theorem transcriptOf_cons {rest : List Bytes} (h : rest ≠ []) (closed : Bool) (segment : Bytes) :
    transcriptOf closed (segment :: rest) = terminated segment ++ .eof :: transcriptOf closed rest := by
  obtain ⟨next, others, rfl⟩ := List.exists_cons_of_ne_nil h
  rfl

/-! ## How a transcript begins -/

theorem transcript_bytes_nil (rest : List Arrival) (closed : Bool) :
    transcript (.bytes [] :: rest) closed = transcript rest closed := by
  obtain ⟨segment, others, hrest⟩ := List.exists_cons_of_ne_nil (segments_ne_nil rest)
  rw [transcript, transcript, segments_bytes, hrest]
  rfl

/-- **It does not matter where bytes were cut.** -/
theorem transcript_bytes_append (chunk more : Bytes) (rest : List Arrival) (closed : Bool) :
    transcript (.bytes chunk :: .bytes more :: rest) closed =
      transcript (.bytes (chunk ++ more) :: rest) closed := by
  obtain ⟨segment, others, hrest⟩ := List.exists_cons_of_ne_nil (segments_ne_nil rest)
  rw [transcript, transcript, segments_bytes, segments_bytes, segments_bytes, hrest,
    List.modifyHead_cons, List.modifyHead_cons, List.modifyHead_cons, List.append_assoc]

/-- A failure is the end of what was begun, which is lost. -/
theorem transcript_failure {begun : Bytes} (h : 10 ∉ begun) (rest : List Arrival) (closed : Bool) :
    transcript (.bytes begun :: .failure :: rest) closed = .eof :: transcript rest closed := by
  rw [transcript, segments_bytes, segments_failure, List.modifyHead_cons, List.append_nil,
    transcriptOf_cons (segments_ne_nil rest), terminated_of_notMem h, List.nil_append, transcript]

/-- A terminated line comes first. -/
theorem transcript_line {line : Bytes} (h : 10 ∉ line) (rest : List Arrival) (closed : Bool) :
    transcript (.bytes (line ++ [10]) :: rest) closed =
      .line (lineText (line ++ [10])) :: transcript rest closed := by
  obtain ⟨segment, others, hrest⟩ := List.exists_cons_of_ne_nil (segments_ne_nil rest)
  rw [transcript, transcript, segments_bytes, hrest, List.modifyHead_cons, List.append_assoc,
    List.singleton_append]
  cases others with
  | nil => rw [transcriptOf, transcriptOf, terminated_line h, unterminated_line h, List.cons_append]
  | cons next others =>
      rw [transcriptOf_cons (List.cons_ne_nil _ _), transcriptOf_cons (List.cons_ne_nil _ _),
        terminated_line h, List.cons_append]

/-- Bytes without a terminator say something only when the source ends behind them. -/
theorem transcript_begun {begun : Bytes} (h : 10 ∉ begun) (closed : Bool) :
    transcript [.bytes begun] closed =
      if closed ∧ begun ≠ [] then [.line (lineText begun)] else [] := by
  have hsegments : segments [.bytes begun] = [begun] := by
    rw [segments_bytes]
    exact congrArg (· :: []) (List.append_nil begun)
  rw [transcript, hsegments, transcriptOf, terminated_of_notMem h, unterminated_of_notMem h,
    List.nil_append]

/-! ## Positions -/

theorem nth_append_congr (front : List ReadLine) {lines others : List ReadLine} {closed : Bool}
    (h : nth lines closed = nth others closed) :
    nth (front ++ lines) closed = nth (front ++ others) closed := by
  funext k
  rw [nth, nth, List.getElem?_append, List.getElem?_append]
  by_cases hk : k < front.length
  · rw [if_pos hk, if_pos hk]
  · rw [if_neg hk, if_neg hk]
    exact congrFun h (k - front.length)

/-- A closed stream that has said everything says that it has ended, as it does behind that. -/
theorem nth_eof : nth [.eof] true = nth [] true := by
  funext k
  cases k <;> rfl

theorem nth_append_length (front lines : List ReadLine) (closed : Bool) :
    nth (front ++ lines) closed front.length = nth lines closed 0 := by
  rw [nth, nth, List.getElem?_append_right (Nat.le_refl _), Nat.sub_self]

theorem nth_of_getElem? {lines : List ReadLine} {k : Nat} {line : ReadLine}
    (h : lines[k]? = some line) (closed : Bool) : nth lines closed k = some line := by
  rw [nth, h, Option.some_or]

/-! ## Schedules -/

/-- What happens to a reader: something arrives, its source ends, somebody reads or looks ahead. -/
inductive Event where
  | arrive (arrival : Arrival)
  | close
  | read
  | peek
deriving DecidableEq, Repr

/-- The reader after an event. -/
def happen (reader : LineReader) : Event → LineReader
  | .arrive arrival => reader.arrive arrival
  | .close => reader.close
  | .read => reader.read.2
  | .peek => reader.peek.2

/-- The reader after a schedule. -/
def play (reader : LineReader) (events : List Event) : LineReader := events.foldl happen reader

/-- What an answer says. To time out says nothing. -/
def heard : ReadLine → List ReadLine
  | .timedOut => []
  | answer => [answer]

/-- What an event makes a reader answer. -/
def answer (reader : LineReader) : Event → List ReadLine
  | .read => heard reader.read.1
  | .arrive _ | .close | .peek => []

/-- What the reads of a schedule answered, those that timed out left aside. -/
def answered (reader : LineReader) : List Event → List ReadLine
  | [] => []
  | event :: rest => reader.answer event ++ answered (reader.happen event) rest

/-- What an event delivers. -/
def Event.delivers : Event → List Arrival
  | arrive arrival => [arrival]
  | close | read | peek => []

/-- What a schedule delivers. -/
def delivered (events : List Event) : List Arrival := events.flatMap Event.delivers

/-- Whether a schedule closes the source. -/
def closes (events : List Event) : Bool := events.contains .close

/-- A schedule delivers nothing once it has closed the source. -/
def Timed (events : List Event) : Prop := delivered (events.dropWhile (· ≠ .close)) = []

instance (events : List Event) : Decidable (Timed events) :=
  inferInstanceAs (Decidable (_ = _))

/-- What the stream of a schedule says at a position. -/
def promised (events : List Event) : Nat → Option ReadLine :=
  nth (transcript (delivered events) (closes events)) (closes events)

/-! ## What is upcoming -/

/-- What reads will answer if only `more` is delivered to a reader. -/
def upcoming (reader : LineReader) (more : List Arrival) (closed : Bool) : List ReadLine :=
  reader.peeked.toList ++ transcript (.bytes reader.unfinished :: (reader.arrived ++ more)) closed

/-- How a stream may go on for a reader: not at all once the source is closed. -/
def MayFollow (reader : LineReader) (more : List Arrival) (closed : Bool) : Prop :=
  reader.closed = true → more = [] ∧ closed = true

/-- A line that is begun is not terminated, and a missing line is not kept. -/
structure Sound (reader : LineReader) : Prop where
  begun : 10 ∉ reader.unfinished
  peeked : reader.peeked ≠ some .timedOut

theorem sound_fresh : fresh.Sound := ⟨List.not_mem_nil, nofun⟩

theorem upcoming_fresh (arrivals : List Arrival) (closed : Bool) :
    fresh.upcoming arrivals closed = transcript arrivals closed :=
  transcript_bytes_nil arrivals closed

/-! ## One answer -/

/-- What it means that a reader gives an answer and goes on as another one. -/
structure Gives (reader : LineReader) (answer : ReadLine) (after : LineReader) : Prop where
  sound : after.Sound
  unpeeked : after.peeked = none
  closed : after.closed = reader.closed
  upcoming : ∀ more closed, reader.MayFollow more closed →
    nth (reader.upcoming more closed) closed =
      nth (heard answer ++ after.upcoming more closed) closed
  starved : answer = .timedOut → after.closed = false ∧ after.arrived = []

theorem heard_of_ne {answer : ReadLine} (h : answer ≠ .timedOut) : heard answer = [answer] := by
  cases answer with
  | timedOut => exact absurd rfl h
  | line | eof => rfl

/-- A chunk that is cut was terminated inside. -/
theorem exists_of_cutLine? {chunk line left : Bytes} (h : cutLine? chunk = some (line, left)) :
    ∃ before, 10 ∉ before ∧ line = before ++ [10] ∧ chunk = before ++ 10 :: left := by
  by_cases hfeed : 10 ∈ chunk
  · obtain ⟨before, after, rfl, hbefore⟩ := List.eq_append_cons_of_mem hfeed
    rw [cutLine?_line hbefore] at h
    obtain ⟨rfl, rfl⟩ := Prod.mk.inj (Option.some.inj h)
    exact ⟨before, hbefore, rfl, rfl⟩
  · rw [cutLine?_of_notMem hfeed] at h
    exact nomatch h

/-- **A scan gives what comes first in everything that has arrived.** -/
theorem scan_gives (closed : Bool) (unfinished : Bytes) (arrived : List Arrival)
    (h : 10 ∉ unfinished) :
    Gives ⟨arrived, closed, unfinished, none⟩ (scan closed unfinished arrived).1
      (scan closed unfinished arrived).2 := by
  fun_induction scan closed unfinished arrived with
  | case1 unfinished hopen =>
      exact
        { sound := ⟨h, nofun⟩
          unpeeked := rfl
          closed := rfl
          upcoming := fun _ _ _ => rfl
          starved := fun _ => ⟨Bool.not_eq_true' _ ▸ hopen, rfl⟩ }
  | case2 hclosed =>
      refine ⟨⟨h, nofun⟩, rfl, rfl, fun more ended hfollow => ?_, nofun⟩
      obtain ⟨rfl, rfl⟩ := hfollow (by simpa using hclosed)
      exact nth_eof.symm
  | case3 unfinished hclosed hbegun =>
      refine ⟨⟨List.not_mem_nil, nofun⟩, rfl, rfl, fun more ended hfollow => ?_, nofun⟩
      obtain ⟨rfl, rfl⟩ := hfollow (by simpa using hclosed)
      show nth (transcript [.bytes unfinished] true) true = _
      rw [transcript_begun h, if_pos ⟨rfl, hbegun⟩]
      rfl
  | case4 unfinished rest =>
      refine ⟨⟨List.not_mem_nil, nofun⟩, rfl, rfl, fun more ended _ => ?_, nofun⟩
      show nth (transcript (.bytes unfinished :: .failure :: (rest ++ more)) ended) ended = _
      rw [transcript_failure h, ← transcript_bytes_nil]
      rfl
  | case5 unfinished chunk rest line left hcut rest' =>
      obtain ⟨before, hbefore, rfl, rfl⟩ := exists_of_cutLine? hcut
      refine ⟨⟨List.not_mem_nil, nofun⟩, rfl, rfl, fun more ended _ => ?_, nofun⟩
      have hline : 10 ∉ unfinished ++ before := fun hm => (List.mem_append.mp hm).elim h hbefore
      have hleft : transcript (.bytes left :: (rest ++ more)) ended =
          transcript (rest' ++ more) ended := by
        by_cases hnil : left = []
        · rw [show rest' = rest from if_pos hnil, hnil, transcript_bytes_nil]
        · rw [show rest' = .bytes left :: rest from if_neg hnil, List.cons_append]
      have hcome : transcript (.bytes unfinished :: .bytes (before ++ 10 :: left) :: (rest ++ more))
          ended = .line (lineText (unfinished ++ before ++ [10])) ::
            transcript (.bytes [] :: (rest' ++ more)) ended := by
        rw [transcript_bytes_append, List.append_cons before 10 left, ← List.append_assoc,
          ← transcript_bytes_append, ← List.append_assoc, transcript_line hline, hleft,
          transcript_bytes_nil]
      rw [← List.append_assoc]
      exact congrArg (nth · ended) hcome
  | case6 unfinished chunk rest hcut ih =>
      have hchunk : 10 ∉ chunk := fun hfeed => by
        obtain ⟨before, after, rfl, hbefore⟩ := List.eq_append_cons_of_mem hfeed
        rw [cutLine?_line hbefore] at hcut
        exact nomatch hcut
      have hrest := ih fun hm => (List.mem_append.mp hm).elim h hchunk
      refine { hrest with upcoming := fun more ended hfollow => ?_ }
      rw [← hrest.upcoming more ended hfollow]
      exact congrArg (nth · ended) (transcript_bytes_append unfinished chunk (rest ++ more) ended)

/-- **A read takes what comes first.** -/
theorem Sound.read {reader : LineReader} (h : reader.Sound) :
    reader.Gives reader.read.1 reader.read.2 := by
  obtain ⟨arrived, closed, unfinished, peeked⟩ := reader
  cases peeked with
  | none => exact scan_gives closed unfinished arrived h.begun
  | some line =>
      have hline : line ≠ .timedOut := fun heq => h.peeked (congrArg some heq)
      refine ⟨⟨h.begun, nofun⟩, rfl, rfl, fun more ended _ => ?_, fun heq => absurd heq hline⟩
      show _ = nth (heard line ++ _) ended
      rw [heard_of_ne hline]
      rfl

/-- When nothing was looked at before, a look is a read whose line stays in front. -/
theorem peek_of_unpeeked {reader : LineReader} (h : reader.peeked = none) :
    reader.peek = (reader.read.1, if reader.read.1 = .timedOut then reader.read.2
      else { reader.read.2 with peeked := some reader.read.1 }) := by
  rw [LineReader.peek, LineReader.read, h]
  dsimp only
  split
  · next hscan => rw [hscan, if_pos rfl]
  · next hline hscan => rw [hscan, if_neg hline]

/-- **A look answers what a read would answer.** -/
theorem peek_eq_read (reader : LineReader) : reader.peek.1 = reader.read.1 := by
  cases hpeeked : reader.peeked with
  | none => rw [peek_of_unpeeked hpeeked]
  | some line => rw [LineReader.peek, LineReader.read, hpeeked]

/-- **A look moves nothing.** -/
theorem Sound.peek {reader : LineReader} (h : reader.Sound) :
    reader.peek.2.Sound ∧ reader.peek.2.closed = reader.closed ∧
      ∀ more closed, reader.MayFollow more closed →
        nth (reader.upcoming more closed) closed =
          nth (reader.peek.2.upcoming more closed) closed := by
  have hread := h.read
  cases hpeeked : reader.peeked with
  | some line =>
      rw [LineReader.peek, hpeeked]
      exact ⟨h, rfl, fun _ _ _ => rfl⟩
  | none =>
      rw [peek_of_unpeeked hpeeked]
      by_cases hline : reader.read.1 = .timedOut
      · rw [if_pos hline]
        refine ⟨hread.sound, hread.closed, fun more closed hfollow => ?_⟩
        rw [hread.upcoming more closed hfollow, hline]
        rfl
      · rw [if_neg hline]
        have hkept : some reader.read.1 ≠ some .timedOut := fun heq => hline (Option.some.inj heq)
        refine ⟨⟨hread.sound.begun, hkept⟩, hread.closed, fun more closed hfollow => ?_⟩
        rw [hread.upcoming more closed hfollow, heard_of_ne hline, LineReader.upcoming,
          hread.unpeeked]
        rfl

/-! ## One event, and a schedule -/

theorem sound_happen {reader : LineReader} (h : reader.Sound) (event : Event) :
    (reader.happen event).Sound := by
  cases event with
  | arrive arrival => exact ⟨h.begun, h.peeked⟩
  | close => exact ⟨h.begun, h.peeked⟩
  | read => exact h.read.sound
  | peek => exact h.peek.1

theorem closed_happen {reader : LineReader} (h : reader.Sound) (event : Event) :
    (reader.happen event).closed = (reader.closed || event == .close) := by
  cases event with
  | arrive arrival => exact (Bool.or_false _).symm
  | close => exact (Bool.or_true _).symm
  | read => exact h.read.closed.trans (Bool.or_false _).symm
  | peek => exact h.peek.2.1.trans (Bool.or_false _).symm

/-- **An event moves its answer from what is upcoming, and what it delivers behind it.** -/
theorem upcoming_happen {reader : LineReader} (h : reader.Sound) (event : Event)
    {more : List Arrival} {closed : Bool} (hfollow : (reader.happen event).MayFollow more closed) :
    nth (reader.upcoming (event.delivers ++ more) closed) closed =
      nth (reader.answer event ++ (reader.happen event).upcoming more closed) closed := by
  cases event with
  | arrive arrival =>
      show _ = nth (reader.peeked.toList ++
        transcript (.bytes reader.unfinished :: (reader.arrived ++ [arrival] ++ more)) closed) closed
      rw [List.append_assoc]
      rfl
  | close => rfl
  | read => exact h.read.upcoming more closed fun hclosed => hfollow (h.read.closed.trans hclosed)
  | peek => exact h.peek.2.2 more closed fun hclosed => hfollow (h.peek.2.1.trans hclosed)

theorem sound_play {reader : LineReader} (h : reader.Sound) (events : List Event) :
    (reader.play events).Sound := by
  induction events generalizing reader with
  | nil => exact h
  | cons event rest ih => exact ih (sound_happen h event)

theorem closed_play {reader : LineReader} (h : reader.Sound) (events : List Event) :
    (reader.play events).closed = (reader.closed || closes events) := by
  induction events generalizing reader with
  | nil => exact (Bool.or_false _).symm
  | cons event rest ih =>
      rw [closes, List.contains_cons, ← Bool.or_assoc, Bool.beq_comm, ← closed_happen h]
      exact ih (sound_happen h event)

/-- **A schedule moves its answers from what is upcoming, and what it delivers behind it.** -/
theorem upcoming_play {reader : LineReader} (h : reader.Sound) {events : List Event}
    {more : List Arrival} {closed : Bool}
    (hquiet : ∀ before after, events = before ++ after → (reader.play before).closed = true →
      delivered after ++ more = [] ∧ closed = true) :
    nth (reader.upcoming (delivered events ++ more) closed) closed =
      nth (answered reader events ++ (reader.play events).upcoming more closed) closed := by
  induction events generalizing reader with
  | nil => rfl
  | cons event rest ih =>
      have hrest := ih (sound_happen h event) fun before after hsplit =>
        hquiet (event :: before) after (congrArg (event :: ·) hsplit)
      have hfollow : (reader.happen event).MayFollow (delivered rest ++ more) closed :=
        hquiet [event] rest rfl
      rw [delivered, List.flatMap_cons, List.append_assoc, ← delivered, upcoming_happen h event hfollow,
        answered, List.append_assoc]
      exact nth_append_congr _ hrest

theorem delivered_append (events more : List Event) :
    delivered (events ++ more) = delivered events ++ delivered more :=
  List.flatMap_append

theorem closes_append (events more : List Event) :
    closes (events ++ more) = (closes events || closes more) :=
  List.contains_append

theorem Timed.quiet {before after : List Event} (h : Timed (before ++ after))
    (hclose : closes before = true) : delivered after = [] := by
  have hstop : before.dropWhile (· ≠ .close) ≠ [] := fun hnil =>
    absurd rfl (of_decide_eq_true (List.dropWhile_eq_nil_iff.mp hnil .close
      (List.contains_iff_mem.mp hclose)))
  rw [Timed, List.dropWhile_append, if_neg (by rwa [List.isEmpty_iff]), delivered_append,
    List.append_eq_nil_iff] at h
  exact h.2

theorem timed_append_of_open {events : List Event} (h : closes events = false) (event : Event)
    (hevent : event ≠ .close) : Timed (events ++ [event]) := by
  have hopen : ∀ e ∈ events ++ [event], decide (e ≠ .close) = true := by
    intro e he
    refine decide_eq_true fun heq => ?_
    rcases List.mem_append.mp (heq ▸ he) with hmem | hmem
    · rw [closes, List.contains_iff_mem.mpr hmem] at h
      exact nomatch h
    · exact hevent (List.mem_singleton.mp hmem).symm
  rw [Timed, List.dropWhile_eq_nil_iff.mpr hopen]
  rfl

/-! ## The stream decides -/

/-- A schedule as a whole has answered and will answer what its stream says. -/
theorem promised_eq {events : List Event} (h : Timed events) (more : List Arrival)
    (hmore : closes events = true → more = []) :
    nth (transcript (delivered events ++ more) (closes events)) (closes events) =
      nth (answered fresh events ++ (fresh.play events).upcoming more (closes events))
        (closes events) := by
  rw [← upcoming_fresh]
  refine upcoming_play sound_fresh fun before after hsplit hclosed => ?_
  rw [closed_play sound_fresh] at hclosed
  have hclose : closes before = true := hclosed
  have hcloses : closes events = true := by
    rw [hsplit, closes_append, hclose, Bool.true_or]
  rw [Timed.quiet (hsplit ▸ h) hclose, hmore hcloses]
  exact ⟨rfl, hcloses⟩

/-- The next answer of a schedule as a whole is the first that is upcoming. -/
theorem promised_next {events : List Event} (h : Timed events) (more : List Arrival)
    (hmore : closes events = true → more = []) :
    nth (transcript (delivered events ++ more) (closes events)) (closes events)
        (answered fresh events).length =
      nth (heard (fresh.play events).read.1 ++
        (fresh.play events).read.2.upcoming more (closes events)) (closes events) 0 := by
  have hclosed : (fresh.play events).closed = closes events := closed_play sound_fresh events
  have hfollow : (fresh.play events).MayFollow more (closes events) := fun hc =>
    ⟨hmore (hclosed ▸ hc), hclosed ▸ hc⟩
  rw [promised_eq h more hmore, nth_append_length,
    (sound_play sound_fresh events).read.upcoming more (closes events) hfollow]

/-- What stands behind an answer that timed out is the unfinished line and what is delivered. -/
theorem Gives.upcoming_of_starved {reader after : LineReader} {answer : ReadLine}
    (h : reader.Gives answer after) (hanswer : answer = .timedOut) (more : List Arrival)
    (closed : Bool) :
    heard answer ++ after.upcoming more closed =
      transcript (.bytes after.unfinished :: more) closed := by
  rw [hanswer, LineReader.upcoming, h.unpeeked, (h.starved hanswer).2]
  rfl

theorem closes_of_starved {events : List Event}
    (h : (fresh.play events).read.1 = .timedOut) : closes events = false := by
  have hread := (sound_play sound_fresh events).read
  exact (closed_play sound_fresh events).symm.trans
    (hread.closed.symm.trans (hread.starved h).1)

/-- **A read answers the next element of the stream, and times out just if there is none.** -/
theorem read_play {events : List Event} (h : Timed events) :
    (fresh.play events).read.1 =
      (promised events (answered fresh events).length).getD .timedOut := by
  have hnext := promised_next h [] fun _ => rfl
  rw [List.append_nil] at hnext
  rw [promised, hnext]
  have hread := (sound_play sound_fresh events).read
  by_cases hline : (fresh.play events).read.1 = .timedOut
  · rw [hread.upcoming_of_starved hline, closes_of_starved hline,
      transcript_begun hread.sound.begun, if_neg (fun hc => nomatch hc.1), hline]
    rfl
  · rw [heard_of_ne hline]
    rfl

/-- When a read times out, nothing decides yet how the stream goes on. -/
theorem undecided_of_starved {events : List Event} (h : Timed events)
    (hread : (fresh.play events).read.1 = .timedOut) :
    promised (events ++ [.arrive .failure]) (answered fresh events).length = some .eof ∧
      ∃ text, promised (events ++ [.arrive (.bytes [10])]) (answered fresh events).length =
        some (.line text) := by
  have hgives := (sound_play sound_fresh events).read
  have hopen := closes_of_starved hread
  have hnext (arrival : Arrival) :
      promised (events ++ [.arrive arrival]) (answered fresh events).length =
        nth (transcript [.bytes (fresh.play events).read.2.unfinished, arrival] false) false 0 := by
    have hmore := promised_next h [arrival] fun hc => nomatch hopen.symm.trans hc
    rw [hgives.upcoming_of_starved hread, hopen] at hmore
    rw [promised, delivered_append, closes_append, hopen]
    exact hmore
  constructor
  · rw [hnext, transcript_failure hgives.sound.begun]
    rfl
  · refine ⟨lineText ((fresh.play events).read.2.unfinished ++ [10]), ?_⟩
    rw [hnext, transcript_bytes_append, transcript_line hgives.sound.begun]
    rfl

/-- What was answered stands in the stream where it was answered. -/
theorem promised_of_answered {events : List Event} (h : Timed events) {k : Nat} {line : ReadLine}
    (hline : (answered fresh events)[k]? = some line) : promised events k = some line := by
  have hwhole := promised_eq h [] fun _ => rfl
  rw [List.append_nil] at hwhole
  rw [promised, hwhole]
  refine nth_of_getElem? ?_ _
  rw [List.getElem?_append_left (List.getElem?_eq_some_iff.mp hline).1, hline]

/-- **Reads answer the stream, element by element, whatever the schedule.** The answers are a prefix of
    what the stream says. A read times out only when nothing that was delivered decides the next
    element: a failure would make it the end, a line feed a line. A look answers what a read would
    answer. Two schedules whose streams have the same segments and the same end never disagree on an
    answer. -/
theorem reads_follow_stream (events : List Event) (h : Timed events) :
    (∀ k line, (answered fresh events)[k]? = some line → promised events k = some line) ∧
    (fresh.play events).read.1 =
      (promised events (answered fresh events).length).getD .timedOut ∧
    ((fresh.play events).read.1 = .timedOut →
      Timed (events ++ [.arrive .failure]) ∧ Timed (events ++ [.arrive (.bytes [10])]) ∧
      promised (events ++ [.arrive .failure]) (answered fresh events).length = some .eof ∧
      ∃ text, promised (events ++ [.arrive (.bytes [10])]) (answered fresh events).length =
        some (.line text)) ∧
    (fresh.play events).peek.1 = (fresh.play events).read.1 ∧
    ∀ others, Timed others → segments (delivered others) = segments (delivered events) →
      closes others = closes events → ∀ (k : Nat) line line',
        (answered fresh events)[k]? = some line → (answered fresh others)[k]? = some line' →
          line = line' := by
  refine ⟨fun k line => promised_of_answered h, read_play h, fun hread => ?_,
    peek_eq_read _, ?_⟩
  · have hopen := closes_of_starved hread
    exact ⟨timed_append_of_open hopen _ nofun, timed_append_of_open hopen _ nofun,
      undecided_of_starved h hread⟩
  · intro others hothers hsegments hcloses k line line' hline hline'
    have hsame : promised others = promised events := by
      rw [promised, promised, transcript, transcript, hsegments, hcloses]
    have heq := promised_of_answered h hline
    rw [← hsame, promised_of_answered hothers hline'] at heq
    exact (Option.some.inj heq).symm

/-- A stream cut between a carriage return and its line feed and inside a character, with looks and
    reads that come too early, a failure, and an end behind an unterminated line. -/
def interrupted : List Event :=
  [.arrive (.bytes [97, 13]), .read, .peek, .arrive (.bytes [10, 195]), .peek, .read, .read,
    .arrive (.bytes [169]), .arrive .failure, .read, .arrive (.bytes [195]), .peek,
    .arrive (.bytes [169]), .close, .read, .read, .read]

theorem reads_follow_stream_interrupted :
    answered fresh interrupted = [.line "a", .eof, .line "é", .eof, .eof] ∧
      ∀ k line, (answered fresh interrupted)[k]? = some line →
        promised interrupted k = some line :=
  ⟨by decide +kernel, (reads_follow_stream interrupted (by decide)).1⟩

end Conformance.LineReader
