import FastCgi.Proofs.Frames
import FastCgi.Proofs.Sequence

/-!
# Bytes that arrive in pieces

The bytes of a connection arrive in pieces, and the pieces have nothing to do with the records that
the bytes make up. `Channel.Ahead` says which bytes are still to be read from a channel, in whatever
pieces they arrive. To read a record off the front of a byte string is to look no further than the
record (`Record.decode_append`), so a channel delivers what reading all of its bytes at once gives
(`Channel.Ahead.delivery`). By induction on the bytes that are left, this holds of bytes that end
inside a record and of bytes that are no records as well.

What is delivered is all that serving depends on, so a connection is served in the same way however
its bytes arrive, and however much it takes at a time (`serve_eq_of_ahead`).
-/

namespace FastCgi

/-! ## Arriving in pieces -/

namespace Connection

/-- What is awaited of a peer that sends some pieces and then closes the connection: the next piece
that is not empty, or the end of the stream if there is none. -/
theorem await_pieces (patience : Nat) (pieces : List Bytes) :
    (await patience (pieces.map .data) = (.endOfStream, 0, []) ∧ pieces.flatten = []) ∨
      ∃ (piece : Bytes) (later : List Bytes),
        await patience (pieces.map .data) = (.data piece, 0, later.map .data) ∧
        pieces.flatten = piece ++ later.flatten := by
  induction pieces with
  | nil => exact .inl ⟨rfl, rfl⟩
  | cons piece later ih =>
    cases piece with
    | nil => exact ih
    | cons b bytes => exact .inr ⟨b :: bytes, later, rfl, rfl⟩

end Connection

namespace Channel

/-- Some bytes are all that is still to be read from an open channel before its peer closes the
connection. Those that have not been read yet arrive without a pause, in whatever pieces. -/
structure Ahead (channel : Channel) (bytes : Bytes) : Prop where
  opened : channel.closed = false
  pause : channel.connection.pause = 0
  arrives : ∃ pieces : List Bytes, channel.connection.script = pieces.map .data ∧
    channel.buffer ++ pieces.flatten = bytes

/-- What is delivered of some bytes: the records at their front, and behind them what is wrong with
the bytes that are left, or the end of the connection, perhaps inside a record. -/
def Delivery.ofBytes (bytes : Bytes) : Delivery :=
  let reading := Record.decodeAll bytes
  ⟨reading.records, match reading.fault with
    | some e => .protocol e
    | none => .closed !reading.rest.isEmpty⟩

/-- What is received first of some bytes. -/
def firstOf (bytes : Bytes) : Except TransportError Record :=
  match Record.decode bytes with
  | .error e => .error (.protocol e)
  | .ok none => .error (.closed !bytes.isEmpty)
  | .ok (some (record, _)) => .ok record

namespace Ahead

variable {channel : Channel} {bytes : Bytes}

/-- A read brings the next piece, or the end of the stream if all bytes have been read. -/
theorem read (h : channel.Ahead bytes) {arrival : Connection.Arrival} {connection : Connection}
    (hread : channel.connection.read channel.timeout = (arrival, connection)) :
    (arrival = .endOfStream ∧ channel.buffer = bytes) ∨
      ∃ piece, arrival = .data piece ∧
        { channel with connection, buffer := channel.buffer ++ piece }.Ahead bytes := by
  obtain ⟨pieces, hscript, hbytes⟩ := h.arrives
  rw [Connection.read, h.pause, if_pos (Nat.zero_le _), hscript] at hread
  rcases Connection.await_pieces (channel.timeout.nanoseconds - 0) pieces with
    ⟨hawait, hnone⟩ | ⟨piece, later, hawait, hpieces⟩
  · rw [hawait] at hread
    cases hread
    refine .inl ⟨rfl, ?_⟩
    rw [← hbytes, hnone, List.append_nil]
  · rw [hawait] at hread
    cases hread
    refine .inr ⟨piece, rfl, h.opened, rfl, later, rfl, ?_⟩
    rw [← hbytes, hpieces, List.append_assoc]

/-- What is received next is what comes first in the bytes that are ahead, and after it the bytes
behind it are. -/
theorem await (h : channel.Ahead bytes) :
    channel.await.1 = firstOf bytes ∧
      ∀ record rest, Record.decode bytes = .ok (some (record, rest)) →
        channel.await.2.Ahead rest := by
  obtain ⟨pieces, hscript, hbytes⟩ := h.arrives
  induction channel using Channel.await.induct generalizing pieces with
  | case1 channel e hdecode =>
    have hall := Record.decode_append_of_error hdecode pieces.flatten
    rw [hbytes] at hall
    rw [await_eq, firstOf, hdecode, hall]
    refine ⟨rfl, fun record rest hfirst => ?_⟩
    cases hfirst
  | case2 channel record rest hdecode =>
    have hall := Record.decode_append hdecode pieces.flatten
    rw [hbytes] at hall
    rw [await_eq, firstOf, hdecode, hall]
    refine ⟨rfl, fun record' rest' hfirst => ?_⟩
    cases hfirst
    exact ⟨h.opened, h.pause, pieces, hscript, rfl⟩
  | case3 channel hdecode piece connection hread _ ih =>
    rcases h.read hread with ⟨hend, -⟩ | ⟨piece', hpiece, hahead⟩
    · cases hend
    cases hpiece
    obtain ⟨later, hscript', hbytes'⟩ := hahead.arrives
    rw [await_eq]
    simp only [hdecode, hread]
    exact ih hahead later hscript' hbytes'
  | case4 channel hdecode connection hread =>
    rcases h.read hread with ⟨-, hbuffer⟩ | ⟨piece, hpiece, -⟩
    · rw [await_eq, firstOf, ← hbuffer, hdecode]
      simp only [hread, true_and]
      intro record rest hfirst
      cases hfirst
    · cases hpiece
  | case5 channel hdecode reason connection hread | case6 channel hdecode connection hread =>
    rcases h.read hread with ⟨hend, -⟩ | ⟨piece, hpiece, -⟩
    · cases hend
    · cases hpiece

/-- Receiving gives what comes first in the bytes that are ahead, and what is behind that is ahead
then. -/
theorem receive (h : channel.Ahead bytes) :
    channel.receive.1 = firstOf bytes ∧
      ∀ record rest, Record.decode bytes = .ok (some (record, rest)) →
        channel.receive.2.Ahead rest := by
  rw [Channel.receive, if_neg (by simp [h.opened])]
  exact h.await

/-- A channel delivers what its bytes hold, in whatever pieces they arrive. -/
theorem delivery (h : channel.Ahead bytes) : channel.delivery = .ofBytes bytes := by
  induction bytes using Record.decodeAll.induct generalizing channel with
  | case1 bytes e hdecode =>
    obtain ⟨hfirst, -⟩ := h.receive
    rw [firstOf, hdecode] at hfirst
    rw [delivery_eq_of_error (Prod.ext hfirst rfl), Delivery.ofBytes, Record.decodeAll_eq, hdecode]
  | case2 bytes hdecode =>
    obtain ⟨hfirst, -⟩ := h.receive
    rw [firstOf, hdecode] at hfirst
    rw [delivery_eq_of_error (Prod.ext hfirst rfl), Delivery.ofBytes, Record.decodeAll_eq, hdecode]
  | case3 bytes record rest hdecode _ ih =>
    obtain ⟨hfirst, hrest⟩ := h.receive
    rw [firstOf, hdecode] at hfirst
    rw [delivery_eq_of_ok (Prod.ext hfirst rfl), ih (hrest record rest hdecode), Delivery.ofBytes,
      Delivery.ofBytes, Record.decodeAll_eq bytes, hdecode]

end Ahead

end Channel

/-! ## Serving -/

namespace Server

/-- **However the bytes arrive.** Two connections that take all that is sent, and over which the
same bytes arrive before the peer closes them, are served in the same way. It does not matter into
which pieces the bytes are cut, whether they make up whole records or records at all, or how much a
connection takes at a time. -/
theorem serve_eq_of_ahead (server : Server) {channel channel' : Channel}
    (hchannel : channel.Pristine) (hchannel' : channel'.Pristine) {bytes : Bytes}
    (hahead : channel.Ahead bytes) (hahead' : channel'.Ahead bytes) :
    (server.serve channel').2.connection.sent.toList =
        (server.serve channel).2.connection.sent.toList ∧
      (server.serve channel').1 = (server.serve channel).1 ∧
      (server.serve channel').2.connection.shutdown =
        (server.serve channel).2.connection.shutdown := by
  have hdelivery : channel'.delivery = channel.delivery :=
    hahead'.delivery.trans hahead.delivery.symm
  refine ⟨?_, ?_, ?_⟩
  · rw [sent_serve hchannel', sent_serve hchannel, hdelivery]
  · rw [(describes_pristine hchannel').result, (describes_pristine hchannel).result, hdelivery]
  · rw [shutdown_serve hchannel', shutdown_serve hchannel, hdelivery]

/-- A request for the echo responder, the header of a record that never arrives in full, and
nothing behind it. -/
def brokenOff : Bytes := Record.encodeAll (echo 1 [104]) ++ [1, 5, 0, 7, 0, 9, 0, 0, 105]

/-- The broken request is answered in the same way cut in two and in one go, and however much is
taken at a time. -/
theorem serve_eq_of_ahead_brokenOff :
    let channel (pieces : List Bytes) (chunk : Option Nat) : Channel :=
      .new { Connection.new (pieces.map .data) with chunk } ⟨1⟩
    let whole := channel [brokenOff] none
    let cut := channel [brokenOff.take 3, [], brokenOff.drop 3] (some 5)
    whole.Pristine ∧ cut.Pristine ∧ whole.Ahead brokenOff ∧ cut.Ahead brokenOff ∧
      (standardServer.serve cut).2.connection.sent.toList =
        (standardServer.serve whole).2.connection.sent.toList ∧
      (standardServer.serve cut).1 = .ok () ∧
      (standardServer.serve cut).2.connection.shutdown = false ∧
      (standardServer.serve whole).2.frames ≠ [] := by
  intro channel whole cut
  have hpristine : ∀ pieces chunk, chunk ≠ some 0 → (channel pieces chunk).Pristine :=
    fun pieces chunk hchunk => ⟨⟨⟨rfl, hchunk, rfl⟩, rfl⟩, rfl, rfl, rfl⟩
  have hwhole : whole.Ahead brokenOff := ⟨rfl, rfl, [brokenOff], rfl, by decide +kernel⟩
  have hcut : cut.Ahead brokenOff :=
    ⟨rfl, rfl, [brokenOff.take 3, [], brokenOff.drop 3], rfl, by decide +kernel⟩
  obtain ⟨hsent, hresult, hshutdown⟩ := serve_eq_of_ahead standardServer
    (hpristine _ none nofun) (hpristine _ (some 5) (by decide)) hwhole hcut
  refine ⟨hpristine _ none nofun, hpristine _ (some 5) (by decide), hwhole, hcut, hsent, ?_, ?_, ?_⟩
  · rw [hresult]
    decide +kernel
  · rw [hshutdown]
    decide +kernel
  · decide +kernel

end Server

end FastCgi
