import CauseTrail.Proofs.Telemetry.CaptureStep

/-!
# What a client sends

A client that is enabled fills in an event and hands it to its transport; a client that is not does
nothing. Either the transport takes the event, and the client answers with its identifier, or what
remains is that the event was filled in.

## Main definitions

* `Telemetry.filledIn`: the state in which a client hands over an event

## Main results

* `Telemetry.send_eq`: an enabled client fills in and hands over
* `Telemetry.send_ok`, `Telemetry.send_error`: what an event that is taken, or refused, leaves
* `Telemetry.transport_send`: what a transport that keeps events does with what is sent
-/

namespace CauseTrail.Telemetry

variable {t t' : Telemetry} {c : Ref Client} {e : Ref Event} {r : Ref Transport}

/-- The state in which a client hands an event that was stamped before to its transport. -/
def filledIn (t : Telemetry) (c : Ref Client) (e : Ref Event) : Telemetry :=
  (t.changeEvent e (·.filled (t.client c).options)).noteSending (t.client c).options e

/-- To fill an event in touches that event and the log. -/
theorem filledIn_eq (t : Telemetry) (c : Ref Client) (e : Ref Event) :
    ∃ log, t.filledIn c e = { t with
      events := t.events.modify e (·.filled (t.client c).options)
      log := log } := by
  rw [filledIn, noteSending]
  split <;> exact ⟨_, rfl⟩

/-- Only the event that is handed over is filled in. -/
theorem event_filledIn (t : Telemetry) (c : Ref Client) (e k : Ref Event) :
    (t.filledIn c e).event k =
      if k = e then (t.event e).filled (t.client c).options else t.event k := by
  obtain ⟨log, ready⟩ := t.filledIn_eq c e
  rw [ready]
  rfl

/-- An enabled client fills in the event, hands it over, and answers with its identifier. -/
theorem send_eq (enabled : (t.client c).options.enabled = true) :
    t.send c e =
      match (t.filledIn c e).deliver (t.client c).transport e with
      | (s, .ok ()) => (s, .ok (t.event e).id)
      | (s, .error x) => (s, .error x) := by
  have same : ((t.changeEvent e (·.filled (t.client c).options)).event e).id = (t.event e).id := by
    rw [event, changeEvent, Registry.get_modify, Event.id_filled]
    rfl
  simp only [send, enabled, if_true, ← same]
  rfl

/-- What is received by a transport does not depend on what was filled in before. -/
theorem Received.of_filledIn (d : (t.filledIn c e).Received t' r e) : t.Received t' r e := by
  obtain ⟨log, ready⟩ := t.filledIn_eq c e
  refine d.congr ?_ ?_ ?_ rfl rfl rfl rfl
  all_goals rw [ready]

/-- An event that was taken is received by the transport, and only the event, what was delivered
and the log have changed. -/
theorem send_ok (enabled : (t.client c).options.enabled = true) {id : Uuid}
    (done : t.send c e = (t', .ok id)) :
    id = (t.event e).id ∧ t.Received t' (t.client c).transport e ∧
      ∃ transports host console log, t' = { t with
        events := t.events.modify e (·.filled (t.client c).options)
        transports := transports, host := host, console := console, log := log } := by
  rw [send_eq enabled] at done
  split at done
  · next s taken =>
    obtain ⟨rfl, same⟩ := Prod.mk.inj done
    obtain ⟨received, transports, host, console, log, result⟩ := deliver_ok taken
    obtain ⟨log', ready⟩ := t.filledIn_eq c e
    exact ⟨(Except.ok.inj same).symm, received.of_filledIn, transports, host, console, log,
      by rw [result, ready]⟩
  · cases done

/-- An event that was refused was filled in, and nothing more. -/
theorem send_error {x : DeliveryError} (done : t.send c e = (t', .error x)) :
    (t.client c).options.enabled = true ∧ t' = t.filledIn c e := by
  cases enabled : (t.client c).options.enabled with
  | false =>
    rw [send_disabled e enabled] at done
    cases done
  | true =>
    rw [send_eq enabled] at done
    split at done
    · cases done
    · next s d refused =>
      obtain ⟨rfl, -⟩ := Prod.mk.inj done
      exact ⟨rfl, deliver_error refused⟩

/-- What is sent is filled in by an enabled client, and no other event is touched. -/
theorem event_send (t : Telemetry) (c : Ref Client) (e k : Ref Event) :
    (t.send c e).1.event k =
      if k = e ∧ (t.client c).options.enabled = true then (t.event e).filled (t.client c).options
      else t.event k := by
  cases enabled : (t.client c).options.enabled with
  | false => simp [send_disabled e enabled]
  | true =>
    have handed := t.event_filledIn c e k
    rcases done : t.send c e with ⟨s, x | id⟩
    · simpa [(send_error done).2] using handed
    · obtain ⟨-, -, _, _, _, _, rfl⟩ := send_ok enabled done
      simp only [and_true]
      rfl

/-- A client that answers with another identifier than nil is enabled. -/
theorem enabled_of_send {id : Uuid} (sent : (t.send c e).2 = .ok id) (given : id ≠ .nil) :
    (t.client c).options.enabled = true := by
  cases enabled : (t.client c).options.enabled with
  | true => rfl
  | false =>
    rw [send_disabled e enabled] at sent
    exact absurd (Except.ok.inj sent).symm given

/-- What a client does when it sends leaves the hubs, the clients and the count of identifiers as
they were. -/
theorem send_others (t : Telemetry) (c : Ref Client) (e : Ref Event) :
    (t.send c e).1.hubs = t.hubs ∧ (t.send c e).1.ids = t.ids := by
  rcases done : t.send c e with ⟨s, x | id⟩
  · obtain ⟨log, ready⟩ := t.filledIn_eq c e
    rw [(send_error done).2, ready]
    exact ⟨rfl, rfl⟩
  · cases enabled : (t.client c).options.enabled with
    | false =>
      rw [send_disabled e enabled] at done
      obtain ⟨rfl, -⟩ := Prod.mk.inj done
      exact ⟨rfl, rfl⟩
    | true =>
      obtain ⟨-, -, _, _, _, _, result⟩ := send_ok enabled done
      rw [result]
      exact ⟨rfl, rfl⟩

/-- A transport that keeps events takes each one that an enabled client hands to it, behind those
that it keeps, and takes no other. -/
theorem transport_send {kept : List (Ref Event)} (memory : t.transport r = .memory kept) :
    (t.send c e).1.transport r =
      if (t.client c).options.enabled = true ∧ (t.client c).transport = r
      then .memory (kept ++ [e]) else .memory kept := by
  cases enabled : (t.client c).options.enabled with
  | false =>
    rw [send_disabled e enabled, if_neg (by simp)]
    exact memory
  | true =>
    obtain ⟨log, ready⟩ := t.filledIn_eq c e
    have same : (t.filledIn c e).transport = t.transport := by rw [ready]; rfl
    by_cases holds : (t.client c).transport = r
    · rw [if_pos ⟨rfl, holds⟩, send_eq enabled, holds, deliver, same, memory]
      exact Registry.get_set _ _ _
    · rw [if_neg fun both => holds both.2]
      rcases done : t.send c e with ⟨s, x | id⟩
      · rw [(send_error done).2, same, memory]
      · rw [(send_ok enabled done).2.1.others r (Ne.symm holds), memory]

/-- No transport becomes one that keeps events by what is sent. -/
theorem transport_of_send {kept : List (Ref Event)}
    (memory : (t.send c e).1.transport r = .memory kept) :
    ∃ before, t.transport r = .memory before := by
  rcases done : t.send c e with ⟨s, x | id⟩
  · obtain ⟨log, ready⟩ := t.filledIn_eq c e
    rw [done, (send_error done).2, ready] at memory
    exact ⟨kept, memory⟩
  · cases enabled : (t.client c).options.enabled with
    | false =>
      rw [send_disabled e enabled] at memory
      exact ⟨kept, memory⟩
    | true =>
      rw [done] at memory
      obtain ⟨-, received, -⟩ := send_ok enabled done
      by_cases holds : r = (t.client c).transport
      · have left := received.kept
        rw [← holds, memory] at left
        cases was : t.transport r with
        | memory before => exact ⟨before, rfl⟩
        | null | console | jsonl | failing =>
          rw [was] at left
          cases left
      · rw [received.others r holds] at memory
        exact ⟨kept, memory⟩

end CauseTrail.Telemetry
