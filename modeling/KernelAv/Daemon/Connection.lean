/- digest: A connection to the control socket: what avd writes, and the response it amounts to. -/

import KernelAv.Lib.Lines

set_option autoImplicit false
set_option relaxedAutoImplicit false

namespace KernelAv.Daemon.Connection

open KernelAv.Lib.CText
open KernelAv.Lib.Lines

/-- What the peer has got, and the fate of every buffer that is written, numbered from 0: it goes
out whole, or the connection fails within it. -/
structure Conn where
  sent : Bytes
  writes : Nat
  fails : Nat → Option Nat

def Conn.accept (fails : Nat → Option Nat) : Conn := ⟨[], 0, fails⟩

@[simp] theorem sent_accept (fails : Nat → Option Nat) : (Conn.accept fails).sent = [] := rfl

/-- The loop around `write`, which ends when the buffer is out or the connection fails. -/
def write_all (c : Conn) (buf : Bytes) : Conn × Bool :=
  match c.fails c.writes with
  | none => ({ c with sent := c.sent ++ buf, writes := c.writes + 1 }, true)
  | some k => ({ c with sent := c.sent ++ buf.dropLast.take k, writes := c.writes + 1 }, false)

def send_err (c : Conn) (msg : Bytes) : Conn :=
  (write_all c (snprintf_s 256 (lit "ERR " ++ msg ++ [nl]))).1

/-- The rows, up to the first that cannot be written. -/
def sendRows (c : Conn) : List Bytes → Conn × Bool
  | [] => (c, true)
  | row :: rows =>
      let w := write_all c row
      if w.2 then sendRows w.1 rows else (w.1, false)

/-- `"OK\n"` and the header line. -/
def sendHeader (c : Conn) (hdr : Bytes) : Conn :=
  (write_all (write_all c (lit "OK" ++ [nl])).1 hdr).1

/-- The terminator, unless a row has failed. -/
def sendEnd (w : Conn × Bool) : Conn :=
  if w.2 then (write_all w.1 (lit "END" ++ [nl])).1 else w.1

/-- The uid that a connection goes by: the one of SO_PEERCRED, or the preset where that fails. -/
def credUid (cred : Option UInt32) : UInt32 := cred.getD 0xFFFFFFFF

def credRoot (cred : Option UInt32) : Bool := cred = some 0

/-- The responses of the protocol. -/
inductive Response where
  | err (msg : Bytes)
  | ok
  | rows (rs : List Bytes)
  deriving DecidableEq

def countLine (n : Nat) : Bytes := lit "COUNT " ++ fmtNat 10 n

def Response.bytes : Response → Bytes
  | .err msg => unlines [lit "ERR " ++ msg]
  | .ok => unlines [lit "OK"]
  | .rows rs => unlines ([lit "OK", countLine rs.length] ++ rs ++ [lit "END"])

/-- The buffer of the header line has room for every count. -/
theorem header_fits {k : Nat} (hk : k < 2 ^ 31) :
    snprintf_s 32 (countLine k ++ [nl]) = countLine k ++ [nl] := by
  refine snprintf_s_eq_self ?_
  have hnum : (fmtNat 10 k).length ≤ 10 := fmtNat_length_le (by decide) (by decide) (by omega)
  rw [countLine, List.length_append, List.length_append, List.length_singleton,
    show (lit "COUNT ").length = 6 from rfl]
  omega

/-- Every buffer goes out whole. -/
def Conn.Reliable (c : Conn) : Prop := ∀ k, c.fails k = none

section Reliable

variable {c : Conn} {buf msg hdr : Bytes} {rows : List Bytes}

def Conn.wrote (c : Conn) (bufs : List Bytes) : Conn :=
  { c with sent := c.sent ++ bufs.flatten, writes := c.writes + bufs.length }

theorem Conn.Reliable.wrote (h : c.Reliable) (bufs : List Bytes) : (c.wrote bufs).Reliable := h

theorem Conn.wrote_wrote (c : Conn) (bufs bufs' : List Bytes) :
    (c.wrote bufs).wrote bufs' = c.wrote (bufs ++ bufs') := by
  simp [Conn.wrote, Nat.add_assoc]

theorem write_all_reliable (h : c.Reliable) (buf : Bytes) :
    write_all c buf = (c.wrote [buf], true) := by
  simp [write_all, h c.writes, Conn.wrote]

theorem send_err_reliable (h : c.Reliable) (hmsg : msg.length < 251) :
    send_err c msg = c.wrote [(Response.err msg).bytes] := by
  have hfit : snprintf_s 256 (lit "ERR " ++ msg ++ [nl]) = (Response.err msg).bytes := by
    rw [snprintf_s_eq_self]
    · simp [Response.bytes]
    · rw [List.length_append, List.length_append, show (lit "ERR ").length = 4 from rfl,
        List.length_singleton]
      omega
  rw [send_err, hfit, write_all_reliable h]

theorem sendRows_reliable (h : c.Reliable) (rows : List Bytes) :
    sendRows c rows = (c.wrote rows, true) := by
  induction rows generalizing c with
  | nil => simp [sendRows, Conn.wrote]
  | cons row rows ih =>
    rw [sendRows, write_all_reliable h]
    exact (ih (h.wrote [row])).trans (by rw [Conn.wrote_wrote, List.singleton_append])

theorem sendHeader_reliable (h : c.Reliable) (hdr : Bytes) :
    sendHeader c hdr = c.wrote [lit "OK" ++ [nl], hdr] := by
  rw [sendHeader, write_all_reliable h, write_all_reliable (h.wrote _), Conn.wrote_wrote]
  rfl

/-- A header with the count, the rows as lines and the terminator are one response. -/
theorem sendEnd_reliable (h : c.Reliable) (rs : List Bytes) :
    (sendEnd (sendRows (sendHeader c (countLine rs.length ++ [nl]))
      (rs.map fun r => r ++ [nl]))).sent = c.sent ++ (Response.rows rs).bytes := by
  rw [sendHeader_reliable h, sendRows_reliable (h.wrote _), sendEnd, if_pos rfl,
    write_all_reliable ((h.wrote _).wrote _), Conn.wrote_wrote, Conn.wrote_wrote]
  simp [Conn.wrote, Response.bytes, unlines, List.flatMap_def]

/-- The same for rows whose buffers have room for their lines. -/
theorem sendEnd_fitting {α : Type} {as : List α} {row text : α → Bytes} (h : c.Reliable)
    (hfit : ∀ a ∈ as, row a = text a ++ [nl]) :
    (sendEnd (sendRows (sendHeader c (countLine as.length ++ [nl])) (as.map row))).sent =
      c.sent ++ (Response.rows (as.map text)).bytes := by
  have hrows : as.map row = (as.map text).map fun r => r ++ [nl] := by
    rw [List.map_map]
    exact List.map_congr_left hfit
  have hsend := sendEnd_reliable h (as.map text)
  rwa [← hrows, List.length_map] at hsend

end Reliable

end KernelAv.Daemon.Connection
