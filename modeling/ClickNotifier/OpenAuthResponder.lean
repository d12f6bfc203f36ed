import Mathlib.Data.List.GetD

/-!
# `OpenAuthResponder`

`OpenAuthResponder::push` and `send_auth_response`, translated from
`elements/wifi/ap/openauthresponder.cc`. A packet is its length and the bytes from `p->data()`
on, those past the length being whatever its buffer holds there; `push` reads through
`readByte` and its siblings, which keep the offsets they read. `struct click_wifi` and the
constants are those of `clicknet/wifi.h`, which is not under src/.

The length check of `push` covers the 24-byte header only, so an auth frame of 24 to 29 bytes is
read past its end, and answered when the bytes there spell an open auth request.
-/

namespace ClickNotifier

/-- A packet: `p->length()`, and the byte at `p->data() + i` for every `i`. -/
structure Packet where
  length : Nat
  bytes : Nat → UInt8

def Packet.ofBytes (bytes : List UInt8) : Packet := ⟨bytes.length, fun i => bytes.getD i 0⟩

structure EtherAddress where
  octets : List UInt8
  length_octets : octets.length = 6
  deriving DecidableEq

def Packet.etherAddressAt (p : Packet) (i : Nat) : EtherAddress :=
  ⟨(List.range 6).map fun k => p.bytes (i + k), by simp⟩

def Packet.le16At (p : Packet) (i : Nat) : UInt16 :=
  UInt16.ofNat ((p.bytes i).toNat + 256 * (p.bytes (i + 1)).toNat)

def le16 (v : UInt16) : List UInt8 := [UInt8.ofNat (v.toNat % 256), UInt8.ofNat (v.toNat / 256)]

abbrev PacketRead := StateM (List Nat)

def readByte (p : Packet) (i : Nat) : PacketRead UInt8 :=
  modifyGet fun reads => (p.bytes i, reads ++ [i])

def readLe16 (p : Packet) (i : Nat) : PacketRead UInt16 := do
  let lo ← readByte p i
  let hi ← readByte p (i + 1)
  pure (UInt16.ofNat (lo.toNat + 256 * hi.toNat))

def readEtherAddress (p : Packet) (i : Nat) : PacketRead EtherAddress :=
  modifyGet fun reads => (p.etherAddressAt i, reads ++ (List.range 6).map (i + ·))

/-- `struct click_wifi`. -/
structure ClickWifi where
  fc0 : UInt8
  fc1 : UInt8
  dur : UInt16
  addr1 : EtherAddress
  addr2 : EtherAddress
  addr3 : EtherAddress
  seq : UInt16
  deriving DecidableEq

def ClickWifi.bytes (w : ClickWifi) : List UInt8 :=
  [w.fc0, w.fc1] ++ le16 w.dur ++ w.addr1.octets ++ w.addr2.octets ++ w.addr3.octets ++ le16 w.seq

/-- `sizeof(struct click_wifi)`. -/
def clickWifiSize : Nat := 24

/-- Offset of `i_addr2` in a `click_wifi`. -/
def addr2Offset : Nat := 10

/-- Constants of `clicknet/wifi.h`: `WIFI_FC0_VERSION_0`, `WIFI_FC0_TYPE_MASK`,
`WIFI_FC0_TYPE_MGT`, `WIFI_FC0_SUBTYPE_MASK`, `WIFI_FC0_SUBTYPE_AUTH`, `WIFI_FC1_DIR_MASK`,
`WIFI_FC1_DIR_NODS`, `WIFI_AUTH_ALG_OPEN` and `WIFI_STATUS_SUCCESS`. -/
def wifiFc0Version0 : UInt8 := 0x00
def wifiFc0TypeMask : UInt8 := 0x0c
def wifiFc0TypeMgt : UInt8 := 0x00
def wifiFc0SubtypeMask : UInt8 := 0xf0
def wifiFc0SubtypeAuth : UInt8 := 0xb0
def wifiFc1DirMask : UInt8 := 0x03
def wifiFc1DirNods : UInt8 := 0x00
def wifiAuthAlgOpen : UInt16 := 0
def wifiStatusSuccess : UInt16 := 0

/-- The `WirelessInfo` element an `OpenAuthResponder` reads its BSSID from. -/
structure WirelessInfo where
  bssid : EtherAddress

/-- An `OpenAuthResponder`: `_debug` and `_winfo`. -/
structure OpenAuthResponder where
  debug : Bool
  winfo : WirelessInfo

/-- The `click_chatter` lines of `push`, after the element's name, in order: "packet too small:
%d vs %d", "received non-management packet", "received non-probe-req packet", "auth %d from %s
not supported", "auth %d weird sequence number %d", and under `DEBUG` "auth %d seq %d
status %d". -/
inductive Chatter where
  | packetTooSmall (length size : Nat)
  | nonManagement
  | nonProbeReq
  | notSupported (algo : UInt16) (src : EtherAddress)
  | weirdSequence (algo seq : UInt16)
  | debug (algo seq status : UInt16)
  deriving DecidableEq

/-- What a call of `push` does besides killing `p`: the lines it logs and the frame it pushes on
output 0. -/
structure PushResult where
  chatter : List Chatter
  output : Option (List UInt8)
  deriving DecidableEq

/-- Lines 77-93: the frame is a management frame of subtype auth. -/
def Packet.managementAuth (p : Packet) : Prop :=
  p.bytes 0 &&& wifiFc0TypeMask = wifiFc0TypeMgt ∧ p.bytes 0 &&& wifiFc0SubtypeMask = wifiFc0SubtypeAuth

instance (p : Packet) : Decidable p.managementAuth := inferInstanceAs (Decidable (_ ∧ _))

namespace OpenAuthResponder

/-- `OpenAuthResponder::send_auth_response(dst, seq, status)`: the frame pushed on output 0, or
nothing when `Packet::make` fails. -/
def sendAuthResponse (self : OpenAuthResponder) (alloc : Bool) (dst : EtherAddress)
    (seq status : UInt16) : Option (List UInt8) :=
  if alloc then
    let w : ClickWifi := ⟨wifiFc0Version0 ||| wifiFc0TypeMgt ||| wifiFc0SubtypeAuth,
      wifiFc1DirNods, 0, dst, self.winfo.bssid, self.winfo.bssid, 0⟩
    some (w.bytes ++ le16 wifiAuthAlgOpen ++ le16 seq ++ le16 status)
  else none

/-- Lines 112-140 of `push`, once the body and the source address are read. -/
def respond (self : OpenAuthResponder) (alloc : Bool) (algo seq status : UInt16)
    (src : EtherAddress) : PushResult :=
  if algo ≠ wifiAuthAlgOpen then ⟨[.notSupported algo src], none⟩
  else if seq ≠ 1 then ⟨[.weirdSequence algo seq], none⟩
  else ⟨if self.debug then [.debug algo seq status] else [],
    self.sendAuthResponse alloc src 2 wifiStatusSuccess⟩

/-- `OpenAuthResponder::push(port, p)`; `alloc` says whether `Packet::make` succeeds. -/
def push (self : OpenAuthResponder) (alloc : Bool) (p : Packet) : PacketRead PushResult := do
  if p.length < clickWifiSize then
    return ⟨[.packetTooSmall p.length clickWifiSize], none⟩
  let _dir := (← readByte p 1) &&& wifiFc1DirMask
  let type := (← readByte p 0) &&& wifiFc0TypeMask
  let subtype := (← readByte p 0) &&& wifiFc0SubtypeMask
  if type ≠ wifiFc0TypeMgt then return ⟨[.nonManagement], none⟩
  if subtype ≠ wifiFc0SubtypeAuth then return ⟨[.nonProbeReq], none⟩
  let algo ← readLe16 p clickWifiSize
  let seq ← readLe16 p (clickWifiSize + 2)
  let status ← readLe16 p (clickWifiSize + 4)
  let src ← readEtherAddress p addr2Offset
  return self.respond alloc algo seq status src

@[simp] theorem readByte_run (p : Packet) (i : Nat) (reads : List Nat) :
    (readByte p i).run reads = (p.bytes i, reads ++ [i]) := rfl

@[simp] theorem readLe16_run (p : Packet) (i : Nat) (reads : List Nat) :
    (readLe16 p i).run reads = (p.le16At i, reads ++ [i, i + 1]) := by
  show (p.le16At i, reads ++ [i] ++ [i + 1]) = _
  simp

@[simp] theorem readEtherAddress_run (p : Packet) (i : Nat) (reads : List Nat) :
    (readEtherAddress p i).run reads = (p.etherAddressAt i, reads ++ (List.range 6).map (i + ·)) :=
  rfl

theorem push_run (self : OpenAuthResponder) (alloc : Bool) (p : Packet) (reads : List Nat) :
    (push self alloc p).run reads =
      if p.length < clickWifiSize then (⟨[.packetTooSmall p.length clickWifiSize], none⟩, reads)
      else if p.bytes 0 &&& wifiFc0TypeMask ≠ wifiFc0TypeMgt then
        (⟨[.nonManagement], none⟩, reads ++ [1, 0, 0])
      else if p.bytes 0 &&& wifiFc0SubtypeMask ≠ wifiFc0SubtypeAuth then
        (⟨[.nonProbeReq], none⟩, reads ++ [1, 0, 0])
      else (self.respond alloc (p.le16At clickWifiSize) (p.le16At (clickWifiSize + 2))
          (p.le16At (clickWifiSize + 4)) (p.etherAddressAt addr2Offset),
        reads ++ [1, 0, 0] ++ (List.range 6).map (clickWifiSize + ·) ++
          (List.range 6).map (addr2Offset + ·)) := by
  unfold push
  by_cases short : p.length < clickWifiSize
  · simp only [short, if_true]; rfl
  simp only [short, if_false, StateT.run_bind, StateT.run_pure, Id.bind_eq, Id.pure_eq,
    readByte_run]
  split_ifs <;> simp only [StateT.run_bind, StateT.run_pure, Id.bind_eq, Id.pure_eq,
    readLe16_run, readEtherAddress_run, List.append_assoc, List.singleton_append,
    List.cons_append] <;> rfl

/-- `push` reads no byte past the packet exactly when the packet is shorter than a header, is
not a management auth frame, or holds the six body bytes after its header. -/
theorem push_reads_within_length_iff (self : OpenAuthResponder) (alloc : Bool) (p : Packet) :
    (∀ i ∈ ((push self alloc p).run []).2, i < p.length) ↔
      p.length < clickWifiSize ∨ ¬ p.managementAuth ∨ clickWifiSize + 6 ≤ p.length := by
  rw [push_run]
  have header (short : ¬ p.length < clickWifiSize) : ∀ i ∈ [] ++ [1, 0, 0], i < p.length := by
    simp only [clickWifiSize] at short
    intro i mem
    simp only [List.nil_append, List.mem_cons, List.not_mem_nil, or_false] at mem
    omega
  by_cases short : p.length < clickWifiSize
  · simp [short]
  rw [if_neg short]
  by_cases type : p.bytes 0 &&& wifiFc0TypeMask = wifiFc0TypeMgt
  · rw [if_neg (not_not.mpr type)]
    by_cases subtype : p.bytes 0 &&& wifiFc0SubtypeMask = wifiFc0SubtypeAuth
    · rw [if_neg (not_not.mpr subtype)]
      have body : ∀ i ∈ [] ++ [1, 0, 0] ++ (List.range 6).map (clickWifiSize + ·) ++
          (List.range 6).map (addr2Offset + ·), i < clickWifiSize + 6 := by decide
      have last : clickWifiSize + 5 ∈ [] ++ [1, 0, 0] ++ (List.range 6).map (clickWifiSize + ·) ++
          (List.range 6).map (addr2Offset + ·) := by decide
      refine ⟨fun within => .inr (.inr (within _ last)), ?_⟩
      rintro (short' | unauth | long)
      · exact absurd short' short
      · exact absurd ⟨type, subtype⟩ unauth
      · exact fun i mem => Nat.lt_of_lt_of_le (body i mem) long
    · rw [if_pos subtype]
      exact iff_of_true (header short) (.inr (.inl fun auth => subtype auth.2))
  · rw [if_pos type]
    exact iff_of_true (header short) (.inr (.inl fun auth => type auth.1))

/-- A 24-byte open auth request whose body lies past its end, in the buffer's tailroom: `push`
reads bytes 24 to 29 and answers it. -/
theorem push_answers_truncated_auth_frame :
    let station : EtherAddress := ⟨[0, 0, 0, 0, 0, 2], rfl⟩
    let bssid : EtherAddress := ⟨[0, 0, 0, 0, 0, 1], rfl⟩
    let header : ClickWifi := ⟨wifiFc0SubtypeAuth, wifiFc1DirNods, 0, bssid, station, bssid, 0⟩
    let p : Packet := ⟨clickWifiSize, (Packet.ofBytes (header.bytes ++ [0, 0, 1, 0, 0, 0])).bytes⟩
    let self : OpenAuthResponder := ⟨false, ⟨bssid⟩⟩
    let run := (push self true p).run []
    (∃ i ∈ run.2, p.length ≤ i) ∧
      run.1.output = self.sendAuthResponse true station 2 wifiStatusSuccess ∧ run.1.output.isSome := by
  decide

end OpenAuthResponder

end ClickNotifier
