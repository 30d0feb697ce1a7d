import Conformance.Proofs.Session.Promise

/-!
# Reading and printing

The lines that a session has still to read of a server that keeps its word are those that the server has
printed and that were not read yet, wherever they are on their way: this is what `Awaiting` says. Reading
takes the first line (`Awaiting.readLine`), looking leaves it (`Awaiting.peekLine`), and more lines come
behind it when a client is started (`Awaiting.extend`).
-/

namespace Conformance

open LineReader (Plain wire)

variable {σ : Type} [Machine σ] {promise : Promise σ}

/-- The lines are those that the server has printed, or is about to print, and that were not read: some
    of their bytes have come to the reader, and the others will. -/
structure Awaiting (machine : Rehearsal promise) (server : Spawned) (now : Serving)
    (lines : List String) : Prop where
  serving : machine.scene.serving = some now
  process : server.process = now.process
  unread : ∃ consumed bytes more, server.output.Unread bytes ∧ machine.scene.sent = consumed ++ bytes ∧
    promise.printed now = consumed ++ bytes ++ more ∧ bytes ++ more = wire lines
  closed : server.output.closed = true →
    now.ended = true ∧ machine.scene.sent = promise.printed now

namespace Awaiting

variable {machine machine' : Rehearsal promise} {server : Spawned} {now : Serving}
  {line : String} {lines : List String} {millis : Nat}

/-- Before its first client a server has to print its banner and the line that says that it waits. -/
theorem fresh {process : Nat} (id : ProcessId)
    (hscene : machine.scene = ⟨some ⟨process, 0, false⟩, []⟩) :
    Awaiting machine ⟨id, process, .fresh⟩ ⟨process, 0, false⟩
      (promise.banner.lines promise.config.server ++ [waitingLine]) where
  serving := congrArg Scene.serving hscene
  process := rfl
  unread := ⟨[], [], _, LineReader.unread_fresh, congrArg Scene.sent hscene, rfl, by
    show wire (promise.banner.lines promise.config.server ++ [] ++ [waitingLine]) = _
    rw [List.append_nil]⟩
  closed := nofun

/-- What leaves the server alone leaves its lines alone. -/
theorem frame (h : Awaiting machine server now lines)
    (hscene : machine'.scene = machine.scene) : Awaiting machine' server now lines where
  serving := hscene ▸ h.serving
  process := h.process
  unread := hscene ▸ h.unread
  closed := hscene ▸ h.closed

/-- A reader that needs nothing more has the whole next line. -/
theorem front (h : Awaiting machine server now (line :: lines)) (hline : Plain line)
    (hready : server.output.isReady = true) :
    ∃ consumed left more, server.output.Unread (Text.encode line ++ 10 :: left) ∧
      machine.scene.sent = consumed ++ (Text.encode line ++ 10 :: left) ∧
      promise.printed now = consumed ++ (Text.encode line ++ 10 :: left) ++ more ∧
      left ++ more = wire lines := by
  obtain ⟨consumed, bytes, more, hunread, hsent, hprinted, hlines⟩ := h.unread
  rw [LineReader.wire_cons] at hlines
  have hfeed : 10 ∈ bytes := by
    rcases hunread.isReady_iff.mp hready with hclosed | hfeed
    -- at a closed source everything has come
    · have hall : consumed ++ bytes = consumed ++ bytes ++ more :=
        hsent.symm.trans ((h.closed hclosed).2.trans hprinted)
      have hmore : more = [] := List.self_eq_append_right.mp hall
      rw [hmore, List.append_nil] at hlines
      rw [hlines]
      exact List.mem_append_right _ List.mem_cons_self
    · exact hfeed
  obtain ⟨left, rfl, hleft⟩ :=
    LineReader.exists_line_of_feed (Text.feed_notMem_encode hline.feed) hlines hfeed
  exact ⟨consumed, left, more, hunread, hsent, hprinted, hleft⟩

/-- **Before a read the next line has come**, now or earlier. -/
theorem fill (h : Awaiting machine server now (line :: lines)) :
    Awaiting (server.fill millis machine).2 (server.fill millis machine).1 now (line :: lines) ∧
    (server.fill millis machine).1.output.isReady = true := by
  obtain ⟨consumed, bytes, more, hunread, hsent, hprinted, hlines⟩ := h.unread
  by_cases hready : server.output.isReady = true
  · rw [Spawned.fill, if_pos hready]
    exact ⟨h, hready⟩
  · have hopen : ¬ server.output.closed = true := fun hclosed =>
      hready (hunread.isReady_iff.mpr (Or.inl hclosed))
    have hbegun : machine.scene.sent <+: promise.printed now :=
      ⟨more, by rw [hsent, hprinted]⟩
    rw [Spawned.fill, if_neg hready, h.process]
    rcases hreceive : Machine.receive machine now.process millis with ⟨receipt, machine'⟩
    obtain ⟨⟨hintact, ⟨rest, hrest⟩, hfeed, hclosed⟩, hscene⟩ :=
      Rehearsal.receive_server h.serving hbegun hreceive
    obtain ⟨chunks, harrived, hcontent⟩ := Receipt.exists_chunks hintact
    rw [hcontent] at hrest hfeed hclosed hscene
    -- what has come now is the beginning of what was still to come
    have hmore : chunks.flatten ++ rest = more := by
      rw [hprinted, hsent] at hrest
      simp only [List.append_assoc] at hrest
      exact List.append_cancel_left (List.append_cancel_left hrest)
    have hunread' := hunread.deliver harrived
    have hlines' : bytes ++ chunks.flatten ++ rest = wire (line :: lines) := by
      rw [List.append_assoc, hmore, hlines]
    have hsent' : machine'.scene.sent = machine.scene.sent ++ chunks.flatten :=
      congrArg Scene.sent hscene
    refine ⟨⟨congrArg Scene.serving hscene, rfl, ?_, ?_⟩, hunread'.isReady_iff.mpr (Or.inr ?_)⟩
    · refine ⟨consumed, _, rest, hunread', ?_, ?_, hlines'⟩
      · rw [hsent', hsent, List.append_assoc]
      · rw [← hrest, hsent, List.append_assoc consumed]
    · intro heither
      rw [hsent']
      exact hclosed ((Bool.or_eq_true _ _ ▸ heither).resolve_left hopen)
    · rcases hfeed with hfeed | hall
      -- if nothing more is to come, the next line has come as a whole
      · exact List.mem_append_right _ hfeed
      · have hnil : rest = [] := List.self_eq_append_right.mp (hall.trans hrest.symm)
        rw [hnil, List.append_nil, LineReader.wire_cons] at hlines'
        rw [hlines']
        exact List.mem_append_right _ List.mem_cons_self

/-- **The session reads what the server printed next.** -/
theorem readLine (h : Awaiting machine server now (line :: lines)) (hline : Plain line) :
    (server.readLine millis machine).1 = .line line ∧
    Awaiting (server.readLine millis machine).2.2 (server.readLine millis machine).2.1 now lines := by
  obtain ⟨h, hready⟩ := h.fill
  obtain ⟨consumed, left, more, hunread, hsent, hprinted, hleft⟩ := h.front hline hready
  obtain ⟨hread, hrest, hclosed⟩ := hunread.read (Text.feed_notMem_encode hline.feed)
  rw [LineReader.lineText_encode hline] at hread
  refine ⟨hread, h.serving, h.process, ?_, fun hc => h.closed (hclosed ▸ hc)⟩
  have hfront : consumed ++ (Text.encode line ++ 10 :: left) =
      consumed ++ (Text.encode line ++ [10]) ++ left := by
    simp only [List.append_assoc, List.singleton_append]
  refine ⟨consumed ++ (Text.encode line ++ [10]), left, more, hrest, hsent.trans hfront, ?_, hleft⟩
  rw [hprinted, hfront]

/-- A look shows what the server printed next, and leaves it to be read. -/
theorem peekLine (h : Awaiting machine server now (line :: lines)) (hline : Plain line) :
    (server.peekLine millis machine).1 = .line line ∧
    Awaiting (server.peekLine millis machine).2.2
      (server.peekLine millis machine).2.1 now (line :: lines) := by
  obtain ⟨h, hready⟩ := h.fill
  obtain ⟨consumed, left, more, hunread, hsent, hprinted, hleft⟩ := h.front hline hready
  obtain ⟨hpeek, hrest, hclosed⟩ := hunread.peek (Text.feed_notMem_encode hline.feed)
  rw [LineReader.lineText_encode hline] at hpeek
  refine ⟨hpeek, h.serving, h.process, ?_, fun hc => h.closed (hclosed ▸ hc)⟩
  refine ⟨consumed, _, more, hrest, hsent, hprinted, ?_⟩
  rw [List.append_assoc, List.cons_append, hleft, LineReader.wire_cons]

/-- Reading goes on line by line. -/
theorem readLines (taken : List String) (hplain : ∀ line ∈ taken, Plain line)
    (h : Awaiting machine server now (taken ++ lines)) :
    (Spawned.readLines taken.length millis server machine).1 = taken.map .line ∧
    Awaiting (Spawned.readLines taken.length millis server machine).2.2
      (Spawned.readLines taken.length millis server machine).2.1 now lines := by
  induction taken generalizing server machine with
  | nil => exact ⟨rfl, h⟩
  | cons line taken ih =>
      obtain ⟨hline, hrest⟩ := h.readLine (hplain line List.mem_cons_self)
      obtain ⟨hlines, hend⟩ := ih (fun l hl => hplain l (List.mem_cons_of_mem _ hl)) hrest
      exact ⟨List.cons_eq_cons.mpr ⟨hline, hlines⟩, hend⟩

/-- What the server prints in addition comes behind everything that is still to be read. -/
theorem extend {now' : Serving} {more : List String} (h : Awaiting machine server now lines)
    (hup : now.ended = false) (hserving : machine'.scene.serving = some now')
    (hsent : machine'.scene.sent = machine.scene.sent) (hprocess : now'.process = now.process)
    (hprinted : promise.printed now' = promise.printed now ++ wire more) :
    Awaiting machine' server now' (lines ++ more) := by
  obtain ⟨consumed, bytes, rest, hunread, hbytes, hwire, hlines⟩ := h.unread
  refine ⟨hserving, h.process.trans hprocess.symm, ?_, ?_⟩
  · refine ⟨consumed, bytes, rest ++ wire more, hunread, hsent.trans hbytes, ?_, ?_⟩
    · rw [hprinted, hwire, List.append_assoc]
    · rw [LineReader.wire_append, ← hlines, List.append_assoc]
  · intro hclosed
    exact absurd (h.closed hclosed).1 (Bool.eq_false_iff.mp hup)

end Awaiting

end Conformance
