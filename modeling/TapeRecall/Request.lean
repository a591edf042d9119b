import TapeRecall.Location

/-!
# Requests and handles

A recall is asked for by file and length and always covers the file from its first byte. It
goes through a handle, which the archive gives out when the file is opened.
-/

set_option autoImplicit false

namespace TapeRecall

/-- A range of bytes, the end not included. -/
structure Window where
  start : UInt64
  stop : UInt64
deriving DecidableEq

namespace Window

/-- The number of bytes. -/
def size (w : Window) : UInt64 := w.stop - w.start

/-- Nothing lies in the window. -/
def isEmpty (w : Window) : Bool := w.stop ≤ w.start

end Window

/-- A recall that is asked for: which file, and how much of it. -/
structure Request where
  file : String
  length : UInt64
deriving DecidableEq

namespace Request

/-- The request for all of a file that was found before. -/
def ofLocation (file : String) (l : Location) : Request := ⟨file, l.size⟩

/-- A recall starts at the first byte. -/
def window (r : Request) : Window := ⟨0, r.length⟩

@[simp] theorem start_window (r : Request) : r.window.start = 0 := rfl

@[simp] theorem size_window (r : Request) : r.window.size = r.length := by
  simp [window, Window.size]

end Request

/-- The number by which the archive knows an open file. -/
structure Handle where
  number : Int32
deriving DecidableEq

/-- How a file is opened, as a set of bits. -/
structure OpenMode where
  bits : Int32
deriving DecidableEq

namespace OpenMode

/-- For reading, and without waiting for a tape to be mounted. -/
def readOnlyNonblock : OpenMode := ⟨2048⟩

/-- The two lowest bits are the access mode, and reading is its value zero. -/
def isReadOnly (m : OpenMode) : Bool := m.bits &&& 3 == 0

end OpenMode

end TapeRecall
