/-!
Stretches of a source text, counted in UTF-8 bytes.

An offset is a word of 32 bits, so a stretch that lies 2³² bytes further on in a
source has the same offsets.

* `Span`: where a stretch starts and where it stops;
* `Span.ofBytes`: the stretch between two numbers of bytes;
* `Span.point`: the empty stretch at an offset;
* `Span.join`: the smallest stretch that covers two others;
* `Located`: a cause together with the stretch it is blamed on.
-/

namespace Reckoner

/-- A stretch of a source text, from byte `start` up to byte `stop`. -/
structure Span where
  start : UInt32
  stop : UInt32
deriving DecidableEq

namespace Span

/-- The empty stretch at the very beginning of a source. -/
def origin : Span := ⟨0, 0⟩

/-- The stretch that starts behind `start` bytes and stops behind `stop`. -/
def ofBytes (start stop : Nat) : Span := ⟨.ofNat start, .ofNat stop⟩

/-- Below 2³² bytes a stretch starts where it says. -/
theorem toNat_start_ofBytes {start : Nat} (stop : Nat) (h : start < UInt32.size) :
    (ofBytes start stop).start.toNat = start :=
  UInt32.toNat_ofNat_of_lt' h

/-- Below 2³² bytes a stretch stops where it says. -/
theorem toNat_stop_ofBytes (start : Nat) {stop : Nat} (h : stop < UInt32.size) :
    (ofBytes start stop).stop.toNat = stop :=
  UInt32.toNat_ofNat_of_lt' h

/-- The empty stretch at byte `offset`. -/
def point (offset : UInt32) : Span := ⟨offset, offset⟩

/-- The smallest stretch that covers both `a` and `b`. -/
def join (a b : Span) : Span := ⟨min a.start b.start, max a.stop b.stop⟩

/-- The written form of a stretch, `start..stop`. -/
def text (s : Span) : String := toString s.start ++ ".." ++ toString s.stop

end Span

/-- A cause of failure and the stretch of source it is blamed on. -/
structure Located (ε : Type) where
  cause : ε
  span : Span
deriving DecidableEq

end Reckoner
