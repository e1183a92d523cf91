import ApiCli.Proofs.Client.Dispatch
import Mathlib.Data.List.TakeWhile

/-!
# Output of commands

What a command writes of the answer to its request, to outputs that may run full.

* `Sink.Takes`: an output takes the longest beginning that it has room for. `Sink.write_append` says
  that it does not matter whether octets are written at once or in two goes, as a line is
  (`printLine_apply`).
* `IsTrimmed` is what is left of octets without the line ends around them; `isTrimmed_iff` says that
  this is one text.
* `printBody` is what becomes of a body and of the two outputs. `printed_execute` says that running
  a command depends on nothing else of an answer.

**Output** (`execute_prints`): a command writes the trimmed body and a line end as far as there is
room, and succeeds exactly if there is. A body that cannot be read is reported first.
-/

namespace ApiCli

variable {bytes middle : List UInt8} {message : String} {s : Session}
  {d : Dispatcher} {c : Command} {baseUrl : String} {bound : Dict Bound}

/-! ## Outputs -/

namespace Sink

/-- Between `s` and `s'` an output took octets of those it was given: the longest beginning that it
had room for. -/
structure Takes (s : Sink) (bytes taken : List UInt8) (s' : Sink) : Prop where
  written : s'.written = s.written ++ taken
  room : s'.room = s.room.map (· - taken.length)
  begins : taken <+: bytes
  fits : ∀ room, s.room = some room → taken.length ≤ room
  longest : ∀ other, other <+: bytes → (∀ room, s.room = some room → other.length ≤ room) →
    other.length ≤ taken.length

theorem write_takes (s : Sink) (bytes : List UInt8) :
    ∃ taken, s.Takes bytes taken (s.write bytes).2 ∧
      ((s.write bytes).1 = true ↔ taken = bytes) := by
  unfold write
  cases hroom : s.room with
  | none =>
    refine ⟨bytes, ⟨rfl, ?_, List.prefix_rfl, ?_, fun other hother _ => hother.length_le⟩, by simp⟩
    · rw [hroom, Option.map_none]
    · rw [hroom]
      exact nofun
  | some room =>
    have hlength : (bytes.take room).length = min room bytes.length := List.length_take
    refine ⟨bytes.take room, ⟨rfl, ?_, List.take_prefix _ _, ?_, ?_⟩, ?_⟩
    · rw [hroom, Option.map_some, hlength]
      exact congrArg some (by omega)
    · rw [hroom]
      rintro _ ⟨⟩
      omega
    · intro other hother hfits
      have hle := hother.length_le
      have hroom := hfits room hroom
      omega
    · rw [decide_eq_true_iff]
      constructor
      · exact List.take_of_length_le
      · intro hall
        rw [hall] at hlength
        omega

/-- Octets may as well be written in two goes, the second only if all was taken at the first. -/
theorem write_append (s : Sink) (bytes more : List UInt8) :
    s.write (bytes ++ more) =
      if (s.write bytes).1 then (s.write bytes).2.write more else s.write bytes := by
  unfold write
  cases hroom : s.room with
  | none => simp
  | some room =>
    by_cases hfits : bytes.length ≤ room
    · simp only [hfits, decide_true, if_true, List.length_append, Prod.mk.injEq, mk.injEq,
        Option.some.injEq, decide_eq_decide, List.take_append, List.take_of_length_le hfits,
        List.append_assoc, true_and]
      omega
    · simp only [hfits, decide_false, Bool.false_eq_true, if_false, List.length_append,
        Prod.mk.injEq, mk.injEq, Option.some.injEq, decide_eq_false_iff_not]
      refine ⟨by omega, ?_, by omega⟩
      rw [List.take_append_of_le_length (by omega)]

end Sink

namespace Dispatcher
open Session ApiCli.Action

/-! ## Line ends -/

/-- What is left of octets without the line ends in front of it and behind it. -/
structure IsTrimmed (bytes middle : List UInt8) : Prop where
  around : ∃ before after,
    bytes = List.replicate before lineEnd ++ middle ++ List.replicate after lineEnd
  head : middle.head? ≠ some lineEnd
  last : middle.getLast? ≠ some lineEnd

theorem exists_replicate_dropWhile (bytes : List UInt8) :
    ∃ count, bytes = List.replicate count lineEnd ++ bytes.dropWhile (· = lineEnd) := by
  refine ⟨(bytes.takeWhile (· = lineEnd)).length, ?_⟩
  have hall : ∀ b ∈ bytes.takeWhile (· = lineEnd), b = lineEnd := fun b hb => by
    simpa using List.mem_takeWhile_imp hb
  rw [← List.eq_replicate_of_mem hall, List.takeWhile_append_dropWhile]

theorem head?_dropWhile_ne (bytes : List UInt8) :
    (bytes.dropWhile (· = lineEnd)).head? ≠ some lineEnd := by
  intro hhead
  have hnot := List.head?_dropWhile_not (· = lineEnd) bytes
  rw [hhead] at hnot
  simp at hnot

theorem dropWhile_replicate_append (count : Nat) (rest : List UInt8) :
    (List.replicate count lineEnd ++ rest).dropWhile (· = lineEnd) =
      rest.dropWhile (· = lineEnd) :=
  List.dropWhile_append_of_pos fun b hb => by simpa using List.eq_of_mem_replicate hb

theorem dropWhile_eq_self (hhead : bytes.head? ≠ some lineEnd) :
    bytes.dropWhile (· = lineEnd) = bytes := by
  cases bytes with
  | nil => rfl
  | cons b bytes => exact List.dropWhile_cons_of_neg (by simpa using hhead)

theorem isTrimmed_trimLineEnds (bytes : List UInt8) : IsTrimmed bytes (trimLineEnds bytes) := by
  obtain ⟨before, hbefore⟩ := exists_replicate_dropWhile bytes
  obtain ⟨after, hafter⟩ := exists_replicate_dropWhile (bytes.dropWhile (· = lineEnd)).reverse
  have hmiddle : bytes.dropWhile (· = lineEnd) =
      trimLineEnds bytes ++ List.replicate after lineEnd := by
    rw [← List.reverse_reverse (bytes.dropWhile (· = lineEnd)), hafter, List.reverse_append,
      List.reverse_replicate]
    rfl
  refine ⟨⟨before, after, ?_⟩, ?_, ?_⟩
  · rw [List.append_assoc, ← hmiddle, ← hbefore]
  · have hhead := head?_dropWhile_ne bytes
    rw [hmiddle, List.head?_append] at hhead
    intro hline
    exact hhead (by rw [hline, Option.some_or])
  · rw [trimLineEnds, List.getLast?_reverse]
    exact head?_dropWhile_ne _

theorem IsTrimmed.trimLineEnds_eq (h : IsTrimmed bytes middle) : trimLineEnds bytes = middle := by
  obtain ⟨before, after, rfl⟩ := h.around
  rw [trimLineEnds, List.append_assoc, dropWhile_replicate_append]
  cases middle with
  | nil =>
    -- Nothing stops the first scan, so that nothing is left for the second.
    rw [List.nil_append, ← List.append_nil (List.replicate after lineEnd),
      dropWhile_replicate_append]
    rfl
  | cons b middle =>
    have hhead : (b :: middle ++ List.replicate after lineEnd).head? ≠ some lineEnd := by
      simpa using h.head
    have hlast : (b :: middle).reverse.head? ≠ some lineEnd := by
      rw [List.head?_reverse]
      exact h.last
    rw [dropWhile_eq_self hhead, List.reverse_append, List.reverse_replicate,
      dropWhile_replicate_append, dropWhile_eq_self hlast, List.reverse_reverse]

/-- There is exactly one such part, and that is what is written. -/
theorem isTrimmed_iff : IsTrimmed bytes middle ↔ middle = trimLineEnds bytes := by
  constructor
  · intro h
    exact h.trimLineEnds_eq.symm
  · rintro rfl
    exact isTrimmed_trimLineEnds bytes

/-- Nothing is left exactly of octets that all end lines. -/
theorem isTrimmed_nil_iff : IsTrimmed bytes [] ↔ ∀ b ∈ bytes, b = lineEnd := by
  constructor
  · rintro ⟨⟨before, after, rfl⟩, -, -⟩ b hb
    rw [List.append_nil, ← List.replicate_add] at hb
    exact List.eq_of_mem_replicate hb
  · intro hall
    refine ⟨⟨bytes.length, 0, ?_⟩, by simp, by simp⟩
    rw [List.append_nil, List.replicate_zero, List.append_nil]
    exact List.eq_replicate_of_mem hall

/-! ## Printing a body -/

/-- The line that reports a body that could not be read. -/
def unreadReport (message : String) : List UInt8 := ("ERR: " ++ message ++ "\n").toUTF8.toList

/-- Write a line to an output, which succeeds if there is room for all of it. -/
def writeLine (line : List UInt8) (out : Sink) : Except DispatchError Unit × Sink :=
  (if (out.write line).1 then .ok () else .error .output, (out.write line).2)

/-- Print a body, with the result and the two outputs as they are left. -/
def printBody (body : Body) (out err : Sink) : Except DispatchError Unit × Sink × Sink :=
  match body.bytes with
  | .ok bytes =>
    let printed := writeLine (trimLineEnds bytes ++ [lineEnd]) out
    (printed.1, printed.2, err)
  | .error message =>
    let reported := err.write (unreadReport message)
    if reported.1 then
      let printed := writeLine [lineEnd] out
      (printed.1, printed.2, reported.2)
    else (.error .output, out, reported.2)

theorem printBody_fst (body : Body) (out err : Sink) :
    (printBody body out err).1 = .ok () ∨ (printBody body out err).1 = .error .output := by
  have hline (line : List UInt8) :
      (writeLine line out).1 = .ok () ∨ (writeLine line out).1 = .error .output := by
    unfold writeLine
    split
    · exact .inl rfl
    · exact .inr rfl
  unfold printBody
  cases body.bytes with
  | ok bytes => exact hline _
  | error message =>
    dsimp only
    split
    · exact hline _
    · exact .inr rfl

/-- What a command does with the body of its answer. -/
def print (body : Body) : Action DispatchError Unit := do
  printLine (trimLineEnds (← readBody body))

theorem writeOut_apply (bytes : List UInt8) (s : Session) :
    (Session.writeOut bytes : Action DispatchError Bool) s =
      (.ok (s.out.write bytes).1, { s with out := (s.out.write bytes).2 }) := rfl

theorem writeOut_append (bytes more : List UInt8) :
    (Session.writeOut (bytes ++ more) : Action DispatchError Bool) =
      (Session.writeOut bytes <&&> Session.writeOut more) := by
  funext s
  rw [writeOut_apply, Sink.write_append, andM, bind_of_ok (writeOut_apply bytes s)]
  cases hall : (s.out.write bytes).1 with
  | true => rfl
  | false =>
    rw [if_neg Bool.false_ne_true, hall]
    rfl

/-- The two writes of a line do what one of all of it does. -/
theorem printLine_apply (bytes : List UInt8) (s : Session) :
    printLine bytes s =
      ((writeLine (bytes ++ [lineEnd]) s.out).1,
        { s with out := (writeLine (bytes ++ [lineEnd]) s.out).2 }) := by
  rw [printLine, ← writeOut_append, bind_of_ok (writeOut_apply _ s), writeLine]
  cases (s.out.write (bytes ++ [lineEnd])).1 <;> rfl

theorem readBody_of_error {body : Body} (h : body.bytes = .error message) (s : Session) :
    readBody body s =
      (if (s.err.write (unreadReport message)).1 then .ok [] else .error .output,
        { s with
          err := (s.err.write (unreadReport message)).2
          log := s.log ++ [.unreadBody] }) := by
  have hnote : (Session.note .unreadBody : Action DispatchError Unit) s =
      (.ok (), { s with log := s.log ++ [.unreadBody] }) := rfl
  have hwrite (s : Session) :
      (Session.writeErr (unreadReport message) : Action DispatchError Bool) s =
        (.ok (s.err.write (unreadReport message)).1,
          { s with err := (s.err.write (unreadReport message)).2 }) := rfl
  rw [readBody, h]
  dsimp only
  rw [bind_of_ok hnote, ← unreadReport, bind_of_ok (hwrite _)]
  dsimp only
  cases (s.err.write (unreadReport message)).1 <;> rfl

/-- The result of a step, and the two outputs as it leaves them. -/
def printed (x : Action DispatchError Unit) (s : Session) :
    Except DispatchError Unit × Sink × Sink :=
  ((x s).1, (x s).2.out, (x s).2.err)

theorem printed_print (body : Body) (s : Session) :
    printed (print body) s = printBody body s.out s.err := by
  unfold printed print printBody
  cases hbytes : body.bytes with
  | ok bytes =>
    have hread : readBody body s = (.ok bytes, s) := by
      rw [readBody, hbytes]
      rfl
    rw [bind_of_ok hread, printLine_apply]
  | error message =>
    have hread := readBody_of_error hbytes s
    dsimp only
    cases hreport : (s.err.write (unreadReport message)).1 with
    | false =>
      rw [hreport] at hread
      rw [bind_of_error hread]
      rfl
    | true =>
      rw [hreport] at hread
      rw [bind_of_ok hread, printLine_apply]
      rfl

theorem printed_receive (response : Response) (s : Session) :
    printed (receive (.ok response)) s = printBody response.body s.out s.err := by
  have hreceive : receive (.ok response) =
      if !Status.isSuccess response.status then
        Session.note .unsuccessfulAnswer >>= fun _ => print response.body
      else print response.body := rfl
  rw [hreceive]
  split
  · have hnote : (Session.note .unsuccessfulAnswer : Action DispatchError Unit) s =
        (.ok (), { s with log := s.log ++ [.unsuccessfulAnswer] }) := rfl
    rw [printed, bind_of_ok hnote]
    exact printed_print response.body _
  · exact printed_print response.body s

/-! ## Running a command -/

theorem open_of_sent (hsent : (d.execute c baseUrl bound s).2.sent ≠ s.sent) :
    s.cancelled = false ∧
      ∃ r, (d.buildRequest c baseUrl bound (d.runSpan s)).run.value = .ok r := by
  rw [execute_apply] at hsent
  cases hr : (d.buildRequest c baseUrl bound (d.runSpan s)).run.value with
  | error e =>
    rw [hr] at hsent
    exact absurd rfl hsent
  | ok r =>
    refine ⟨?_, r, rfl⟩
    cases hcancelled : s.cancelled with
    | false => rfl
    | true =>
      rw [hr, hcancelled] at hsent
      exact absurd rfl hsent

theorem printed_execute {r : Request} {status : Nat} {body : Body} (hopen : s.cancelled = false)
    (hr : (d.buildRequest c baseUrl bound (d.runSpan s)).run.value = .ok r)
    (hanswer : (s.reply 0).outcome = .ok ⟨status, body⟩) :
    printed (d.execute c baseUrl bound) s = printBody body s.out s.err := by
  rw [printed, execute_apply, hr, hopen, hanswer]
  exact printed_receive ⟨status, body⟩ _

/-- A line is written as far as there is room, and the result tells whether it all was. -/
def Prints (line : List UInt8) (out : Sink) (result : Except DispatchError Unit) (out' : Sink) :
    Prop :=
  ∃ taken, out.Takes line taken out' ∧ result = if taken = line then .ok () else .error .output

theorem prints_writeLine (line : List UInt8) (out : Sink) :
    Prints line out (writeLine line out).1 (writeLine line out).2 := by
  obtain ⟨taken, htakes, hall⟩ := out.write_takes line
  refine ⟨taken, htakes, ?_⟩
  rw [writeLine]
  simp only [hall]

/-- **Output** of a command whose request is sent and answered. The body without the line ends
around it and one line end are written as far as there is room for them. A body that cannot be read
counts as empty, and nothing is written if there is too little room to report it. The status of the
answer does not matter. -/
theorem execute_prints {response : Response}
    (hsent : (d.execute c baseUrl bound s).2.sent ≠ s.sent)
    (hanswer : (s.reply 0).outcome = .ok response) :
    (∀ bytes, response.body.bytes = .ok bytes → ∃ middle,
        (∀ other, IsTrimmed bytes other ↔ other = middle) ∧
        (middle = [] ↔ ∀ b ∈ bytes, b = lineEnd) ∧
        Prints (middle ++ [lineEnd]) s.out (d.execute c baseUrl bound s).1
          (d.execute c baseUrl bound s).2.out ∧
        (d.execute c baseUrl bound s).2.err = s.err) ∧
      (∀ message, response.body.bytes = .error message → ∃ taken,
        s.err.Takes (unreadReport message) taken (d.execute c baseUrl bound s).2.err ∧
        (taken = unreadReport message →
          Prints [lineEnd] s.out (d.execute c baseUrl bound s).1
            (d.execute c baseUrl bound s).2.out) ∧
        (taken ≠ unreadReport message →
          (d.execute c baseUrl bound s).1 = .error .output ∧
            (d.execute c baseUrl bound s).2.out = s.out)) ∧
      ∀ status, printed (d.execute c baseUrl bound)
          { s with
            replies := ⟨(s.reply 0).cancels, .ok { response with status }⟩ :: s.replies.tail } =
        printed (d.execute c baseUrl bound) s := by
  obtain ⟨hopen, r, hr⟩ := open_of_sent hsent
  have hprinted := printed_execute hopen hr hanswer
  refine ⟨fun bytes hbytes => ?_, fun message hmessage => ?_, fun status => ?_⟩
  · simp only [printed, printBody, hbytes, Prod.mk.injEq] at hprinted
    obtain ⟨hresult, hout, herr⟩ := hprinted
    refine ⟨trimLineEnds bytes, fun other => isTrimmed_iff, ?_, ?_, herr⟩
    · rw [← isTrimmed_nil_iff, isTrimmed_iff, eq_comm]
    · rw [hresult, hout]
      exact prints_writeLine _ _
  · obtain ⟨taken, htakes, hall⟩ := s.err.write_takes (unreadReport message)
    simp only [printed, printBody, hmessage] at hprinted
    refine ⟨taken, ?_⟩
    by_cases hreport : (s.err.write (unreadReport message)).1 = true
    · rw [if_pos hreport, Prod.mk.injEq, Prod.mk.injEq] at hprinted
      obtain ⟨hresult, hout, herr⟩ := hprinted
      refine ⟨by rwa [herr], fun _ => ?_, fun hpart => absurd (hall.1 hreport) hpart⟩
      rw [hresult, hout]
      exact prints_writeLine _ _
    · rw [if_neg hreport, Prod.mk.injEq, Prod.mk.injEq] at hprinted
      obtain ⟨hresult, hout, herr⟩ := hprinted
      exact ⟨by rwa [herr], fun htaken => absurd (hall.2 htaken) hreport, fun _ => ⟨hresult, hout⟩⟩
  · rw [hprinted]
    exact printed_execute hopen hr rfl

/-! ## Answers that find too little room -/

namespace Output

/-- A command without flags. -/
def ping : Command where
  name := "ping"
  aliases := []
  method := .get
  path := "/ping"
  summary := ""
  description := ""
  flags := Dict.empty
  isDefault := false

/-- A session in which the remote does not find what is asked for, with little room in the
outputs. -/
def answered (body : Body) (out err : Nat) : Session :=
  { Session.start with
    replies := [⟨false, .ok ⟨404, body⟩⟩]
    out := ⟨[], some out⟩
    err := ⟨[], some err⟩ }

/-- The client on its own, without a trace. -/
def client : Dispatcher := ⟨.none, "client", none⟩

def run (s : Session) : Except DispatchError Unit × Session :=
  client.execute ping "http://api.test" Dict.empty s

/-- Two lines, with line ends around them. -/
def lines : Session := answered ⟨"\n\nab\ncd\n\n".toUTF8.toList, none⟩ 4 0

def broken (err : Nat) : Session := answered ⟨[], some "reset"⟩ 0 err

end Output

open Output in
/-- Four octets of the two lines are written. A report with too little room keeps the output as it
is; one with enough room leaves the end of the empty line to be written. -/
theorem execute_prints_partly :
    (Prints "ab\ncd\n".toUTF8.toList lines.out (run lines).1 (run lines).2.out ∧
        (run lines).1 = .error .output ∧ (run lines).2.out.written = "ab\nc".toUTF8.toList) ∧
      ((broken 6).err.Takes (unreadReport "reset") "ERR: r".toUTF8.toList
          (run (broken 6)).2.err ∧
        (run (broken 6)).1 = .error .output ∧ (run (broken 6)).2.out = (broken 6).out) ∧
      (broken 11).err.Takes (unreadReport "reset") "ERR: reset\n".toUTF8.toList
          (run (broken 11)).2.err ∧
        Prints [lineEnd] (broken 11).out (run (broken 11)).1 (run (broken 11)).2.out ∧
        (run (broken 11)).1 = .error .output := by
  have hline : "ab\ncd".toUTF8.toList ++ [lineEnd] = "ab\ncd\n".toUTF8.toList := by decide +kernel
  have htrimmed : IsTrimmed "\n\nab\ncd\n\n".toUTF8.toList "ab\ncd".toUTF8.toList := by
    rw [isTrimmed_iff]
    decide +kernel
  have hsent : (run lines).2.sent ≠ [] ∧ (run (broken 6)).2.sent ≠ [] ∧
      (run (broken 11)).2.sent ≠ [] := by decide +kernel
  have hreported : (run (broken 6)).2.err.written = "ERR: r".toUTF8.toList ∧
      (run (broken 11)).2.err.written = "ERR: reset\n".toUTF8.toList := by decide +kernel
  refine ⟨⟨?_, by decide +kernel⟩, ?_, ?_⟩
  · obtain ⟨hread, -, -⟩ := execute_prints hsent.1 (by rfl)
    obtain ⟨middle, hmiddle, -, hprints, -⟩ := hread _ rfl
    rwa [← (hmiddle _).1 htrimmed, hline] at hprints
  · obtain ⟨-, hunread, -⟩ := execute_prints hsent.2.1 (by rfl)
    obtain ⟨taken, htakes, -, hpart⟩ := hunread "reset" rfl
    obtain rfl : taken = "ERR: r".toUTF8.toList := htakes.written.symm.trans hreported.1
    exact ⟨htakes, hpart (by decide +kernel)⟩
  · obtain ⟨-, hunread, -⟩ := execute_prints hsent.2.2 (by rfl)
    obtain ⟨taken, htakes, hall, -⟩ := hunread "reset" rfl
    obtain rfl : taken = "ERR: reset\n".toUTF8.toList := htakes.written.symm.trans hreported.2
    exact ⟨htakes, hall (by decide +kernel), by decide +kernel⟩

end Dispatcher
end ApiCli
