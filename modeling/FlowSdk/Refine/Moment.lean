/-
  FlowSdk.Refine.Moment — the states in which a run handles packets.

  A call handles several packets, so what is said about one packet has to hold in states that
  lie inside a call. `Moment` closes the states between two calls under what a call does on
  the way to a packet: it moves the clock, feeds the parser, flushes responses, takes one
  packet after the other from the parser, hands over the output and empties the queue. Every
  moment is reached by steps of the ledger, so an invariant of the steps holds there as well.
-/
import FlowSdk.Refine.Run

namespace FlowSdk

open Machine Wire Ledger
open Relation (ReflTransGen)

variable {T : Type} [TimePoint T] {ε : Type} {B : Build} {P : Permit}

namespace MqttEngine

/-- The states of a run between two calls, and inside a call before a packet is handled. -/
inductive Moment (B : Build) (allowed : MqttEngine T → Call T → Prop) (start : MqttEngine T) :
    MqttEngine T → Prop
  | between {e} (run : Run B allowed start e) (alive : e.panicked = none) :
      Moment B allowed start e
  | clock {e} (now : T) (moment : Moment B allowed start e) (later : e.timeCheck now = .ok ()) :
      Moment B allowed start { e with now := now }
  -- handle_incoming
  | feed {e} (data : Bytes) (moment : Moment B allowed start e) (room : e.overflows data = .ok ()) :
      Moment B allowed start { e with parser := e.parser.feed data }
  | flush {e e'} (moment : Moment B allowed start e)
      (flushed : (flushResponses B : Eff _ MqttClientError _) e = .done (.ok ()) e') :
      Moment B allowed start e'
  | read {e parser} (packet : ParsedPacket) (moment : Moment B allowed start e)
      (next : e.parser.nextParsed B.strict = (.ok (some packet), parser)) :
      Moment B allowed start { e with parser := parser, lastPacketReceived := e.now }
  | handled {e e'} (moment : Moment B allowed start e)
      (parsed : (parseNext B : Eff _ MqttClientError _) e = .done (.ok true) e') :
      Moment B allowed start e'
  -- take_outgoing and ingest_stream_packet
  | taken {e} (moment : Moment B allowed start e) :
      Moment B allowed start { e.record (.taken e.outgoingBuffer.flatten) with outgoingBuffer := [] }
  | emptied {e e'} (moment : Moment B allowed start e)
      (processed : (processQueue B : Eff _ MqttClientError _) e = .done (.ok ()) e') :
      Moment B allowed start e'
  | reported {e} (moment : Moment B allowed start e) :
      Moment B allowed start { e with lastPacketReceived := e.now, events := [] }

variable {allowed : MqttEngine T → Call T → Prop} {start e : MqttEngine T}

/-- What a permit has to allow for the moments of a run to be reached. -/
structure Attends (P : Permit) : Prop where
  starts : P.starts
  takes : P.takes
  on : P.on none

theorem Moment.steps (h : ∀ e c, allowed e c → c.Allowed B P e) (attends : Attends P)
    (moment : Moment B allowed start e) :
    ReflTransGen (Step B.strict P) start.ledger e.ledger := by
  induction moment with
  | between run alive => exact run.steps h
  | clock now moment later ih =>
    obtain ⟨hback, hrange⟩ := timeCheck_ok later
    exact ih.tail (.clock now attends.starts hback hrange)
  | @feed e data moment room ih =>
    have hbounded : ∀ limit ∈ e.options.maxIncomingBufferBytes,
        (e.parser.feed data).buffer.length ≤ limit := by
      rw [MqttParser.buffer_feed, List.length_append]
      exact rejectOver_eq_ok.mp room
    exact ih.tail (parser_step (e.parser.feed_sameMode data) (.inr hbounded))
  | @flush e e' moment flushed ih =>
    have hsim := flushResponses_sim (B := B) (P := P) (ε := MqttClientError) e
    rw [flushed] at hsim
    exact ih.trans hsim.steps
  | @read e parser packet moment next ih =>
    obtain ⟨hmode, htaken⟩ := MqttParser.nextParsed_taken B.strict e.parser
    rw [next] at hmode htaken
    have hshort : parser.buffer.length ≤ e.parser.buffer.length := by
      rw [htaken, List.length_drop]
      exact Nat.sub_le _ _
    exact ih.tail (parser_step hmode (.inl hshort))
  | @handled e e' moment parsed ih =>
    have hsim := parseNext_sim (B := B) (P := P) (ε := MqttClientError) attends.on e
    rw [parsed] at hsim
    exact ih.trans hsim.steps
  | taken moment ih => exact ih.tail (.flushed attends.takes)
  | @emptied e e' moment processed ih =>
    have hsim := processQueue_sim (B := B) (P := P) (ε := MqttClientError) e
    rw [processed] at hsim
    exact ih.trans hsim.steps
  | reported moment ih => exact ih

/-- An invariant of the steps holds at every moment of a run. -/
theorem Moment.invariant {I : Ledger T → Prop} (h : ∀ e c, allowed e c → c.Allowed B P e)
    (attends : Attends P) (hstep : ∀ l l', Step B.strict P l l' → I l → I l')
    (hstart : I start.ledger) (moment : Moment B allowed start e) : I e.ledger :=
  invariant_steps hstep (moment.steps h attends) hstart

end MqttEngine

end FlowSdk
