import BuildPeer.Failure
import BuildPeer.Text.Utf8

/-!
Output as it is taken: a sink takes at most `perCall` bytes at a time. Once it has taken `limit`
bytes in all, a further call fails with `fault`, or takes nothing if there is no fault; after
`goodFlushes` flushes every further flush fails. `writeAll` calls until all bytes are taken.
-/

namespace BuildPeer

structure Sink where
  perCall : Option Nat := none
  limit : Option Nat := none
  fault : Option IoError := none
  flushFault : Option IoError := none
  goodFlushes : Nat := 0
  taken : Bytes := []
  deriving Repr

namespace Sink

def accepts (sink : Sink) (offered : Nat) : Except IoError Nat :=
  let most := min offered (sink.perCall.getD offered)
  match sink.limit with
  | none => .ok most
  | some limit =>
      if sink.taken.length < limit then .ok (min most (limit - sink.taken.length))
      else
        match sink.fault with
        | some error => .error error
        | none => .ok 0

def take (sink : Sink) (bytes : Bytes) : Sink :=
  { sink with taken := sink.taken ++ bytes }

/-- The error of a call that takes nothing although something is offered. -/
def writeZero : IoError :=
  ⟨.writeZero, "write zero"⟩

def writeAll (sink : Sink) (bytes : Bytes) : Except IoError Unit × Sink :=
  if bytes.isEmpty then (.ok (), sink)
  else
    match sink.accepts bytes.length with
    | .error error => (.error error, sink)
    | .ok 0 => (.error writeZero, sink)
    | .ok (n + 1) => writeAll (sink.take (bytes.take (n + 1))) (bytes.drop (n + 1))
termination_by bytes.length
decreasing_by
  have : bytes ≠ [] := by simpa using ‹¬ bytes.isEmpty = true›
  have := List.length_pos_iff.mpr this
  simp only [List.length_drop]
  omega

def flush (sink : Sink) : Except IoError Unit × Sink :=
  match sink.flushFault with
  | none => (.ok (), sink)
  | some error =>
      match sink.goodFlushes with
      | 0 => (.error error, sink)
      | n + 1 => (.ok (), { sink with goodFlushes := n })

end Sink
end BuildPeer
