import NodeLink.Link.Basic
import NodeLink.Rehearsal.Channel
import NodeLink.Sink.Basic

/-!
# The scene of a rehearsal

The scene holds all that surrounds a link while it is rehearsed: the clock, the
channels, the sink, the log, and the calls that are to be made on certain
occasions. Publishing takes the next prepared entry, if any. Logging takes the
first prepared entry whose text occurs in the line; the line itself is kept only
if its level is grave enough, and lines that are not kept are no occasions.

While there is no link to be called, prepared entries are used up without effect.
-/

set_option autoImplicit false

namespace NodeLink.Rehearsal

/-- Whether a text occurs within another. -/
def occursIn (needle : List Char) : List Char → Bool
  | [] => needle.isEmpty
  | c :: rest => needle.isPrefixOf (c :: rest) || occursIn needle rest

/-- Takes the first element that satisfies a test out of a list. -/
def extract? {α : Type} (p : α → Bool) : List α → Option (α × List α)
  | [] => none
  | x :: rest =>
    if p x then some (x, rest)
    else (extract? p rest).map fun r => (r.1, x :: r.2)

/-- The surroundings of a rehearsed link. -/
structure Scene where
  now : Nat
  linkExists : Bool
  channels : Array Channel
  sink : Sink Event
  onPublish : List (Option Call)
  /-- The calls prepared for log lines. -/
  onLog : List (String × Call)
  /-- The rank of the least grave lines that are kept. -/
  threshold : Nat
  /-- The lines kept since the last report, with their times. -/
  lines : List (Nat × String)

namespace Scene

def mapChannel (s : Scene) (c : ChannelId) (f : Channel → Channel) : Scene :=
  { s with channels := s.channels.modify c f }

/-- The calls on an occasion. -/
def react (k : Occasion) (s : Scene) : List Call × Scene :=
  let heard (c : Call) : List Call := if s.linkExists then [c] else []
  match k with
  | .logging line =>
    if s.threshold < line.level.rank then ([], s)
    else
      let s := { s with lines := s.lines ++ [(s.now, line.text)] }
      match extract? (fun e => occursIn e.1.toList line.text.toList) s.onLog with
      | some (entry, rest) => (heard entry.2, { s with onLog := rest })
      | none => ([], s)
  | .publishing _ =>
    match s.onPublish with
    | some c :: rest => (heard c, { s with onPublish := rest })
    | none :: rest => ([], { s with onPublish := rest })
    | [] => ([], s)
  | .consulting _ => ([], s)
  | .writing c r =>
    ([], s.mapChannel c fun ch =>
      { ch with written := ch.written ++ [r.payload], requests := ch.requests ++ [some r] })
  | .flushing c => ([], s.mapChannel c fun ch => { ch with flushes := ch.flushes + 1 })

/-- Offers an event to the sink. A refused one comes back as it was (`Sink.publish_refused`), so
only the reason is news to the link. -/
def accept (e : Event) (s : Scene) : Option Refusal × Scene :=
  let answer := s.sink.publish e
  (answer.1.map (·.1), { s with sink := answer.2 })

/-- The scene as surroundings, with a backoff and the owner's stages. -/
def surroundings (delay : UInt64 → Option Nat) (stages : List Stage) : Surroundings Scene where
  react := react
  accept := accept
  delay attempt s := (delay attempt, s)
  stages s := (stages, s)
  traces s := Level.trace.rank ≤ s.threshold
  isActive s c := (s.channels[c]?.map (·.active)).getD false
  isWritable s c := (s.channels[c]?.map (·.writable)).getD false
  remote s c := (s.channels[c]?.bind (·.remote)).map (·.label)

end Scene

end NodeLink.Rehearsal
