/-
  PureBoot.Dhcp.Offer — the OFFER of the proxy.

  Embeds `pxe/dhcp_proxy.py: DHCPProxy` (`get_boot_file`, `get_ipxe_script_url`,
  `build_offer`, `_parse_ip`).  The offer is written into a buffer of 512 bytes by
  assignments to slices; a value of another size than its slice would move everything
  behind it.  `int` is the one of the language (`IntReader`).

  The offer is a datagram as the parser reads them (`buildOffer_eq`), so what is read
  of it follows from `Packet`.

  Main results:
    * `buildOffer_eq` — the bytes of an offer;
    * `offer_answers` — what a client reads of the offer to its request.
-/
import PureBoot.Dhcp.Packet

namespace PureBoot.Dhcp

open PureBoot.Lib

/-! ## §1. The proxy. -/

/-- The value of a text of decimal digits. -/
def decimal (digits : List Char) : Nat := digits.foldl (fun n c => 10 * n + (c.toNat - 48)) 0

/-- `int(text)`, as far as it is used. -/
structure IntReader where
  int : List Char → Option Int
  int_digits : ∀ text, text ≠ [] → (∀ c ∈ text, c.isDigit = true) →
    int text = some (decimal text)

/-- `DHCPProxy`, without the socket. -/
structure DHCPProxy where
  tftpServer : List Char
  httpServer : List Char

/-- `BOOT_FILES`. -/
def bootFiles : ClientArchitecture → List Char
  | .bios => "bios/undionly.kpxe".toList
  | .uefiX64 => "uefi/ipxe.efi".toList
  | .uefiX64Alt => "uefi/ipxe.efi".toList

/-- `get_boot_file`. -/
def getBootFile (arch : Option ClientArchitecture) : List Char := bootFiles (arch.getD .bios)

/-- `get_ipxe_script_url`. -/
def DHCPProxy.getIpxeScriptUrl (proxy : DHCPProxy) : List Char :=
  "http://".toList ++ proxy.httpServer ++ "/api/v1/ipxe/boot.ipxe".toList

/-- The boot file of the offer. -/
def DHCPProxy.bootFile (proxy : DHCPProxy) (request : DHCPPacket) : List Char :=
  if request.isIpxe then proxy.getIpxeScriptUrl else getBootFile request.clientArch

/-- `text.encode("ascii")`. -/
def encode (text : List Char) : Except DHCPError Bytes :=
  match encodeAscii text with
  | some bytes => .ok bytes
  | none => .error .unicodeError

/-- A number in `bytes([…])`. -/
def byteOf (n : Int) : Except DHCPError UInt8 :=
  if 0 ≤ n ∧ n < 256 then .ok (UInt8.ofNat n.toNat)
  else .error (.valueError "bytes must be in range(0, 256)")

/-- `int(x)` in `_parse_ip`. -/
def parseOctet (r : IntReader) (x : List Char) : Except DHCPError UInt8 :=
  match r.int x with
  | some n => byteOf n
  | none => .error (.valueError "invalid literal for int() with base 10")

/-- `_parse_ip`. -/
def parseIp (r : IntReader) (ipStr : List Char) : Except DHCPError Bytes :=
  (((ipStr.splitOn ':').headD []).splitOn '.').mapM (parseOctet r)

/-! ## §2. The offer. -/

/-- The fields before the cookie. -/
def offerHeader (request : DHCPPacket) (bootFileBytes : Bytes) : Bytes :=
  let response := (((List.replicate 512 0).set 0 2).set 1 request.htype).set 2 request.hlen
  let response := setSlice 4 8 request.xid response
  let response := setSlice 28 (28 + request.hlen.toNat) request.clientMac response
  if request.isIpxe then response
  else setSlice 108 (108 + (bootFileBytes.take 63).length) (bootFileBytes.take 63) response

/-- A text with a NUL behind it as option `code` at `i`, and where the next one goes. -/
def putText (response : Bytes) (i : Nat) (code : UInt8) (text : Bytes) :
    Except DHCPError (Bytes × Nat) := do
  let size ← byteOf (text.length + 1)
  .ok (setSlice i (i + 2 + text.length + 1) (code :: size :: (text ++ [0])) response,
    i + 2 + text.length + 1)

/-- Option 66, for firmware only. -/
def putServerName (proxy : DHCPProxy) (request : DHCPPacket) (response : Bytes) (i : Nat) :
    Except DHCPError (Bytes × Nat) :=
  if request.isIpxe then .ok (response, i)
  else do
    let tftpBytes ← encode proxy.tftpServer
    putText response i 66 tftpBytes

/-- The end byte at `i`, and what is sent. -/
def putEnd (response : Bytes) (i : Nat) : Except DHCPError Bytes :=
  if i < response.length then .ok ((response.set i 255).take (i + 1)) else .error .indexError

/-- `build_offer`. -/
def buildOffer (r : IntReader) (proxy : DHCPProxy) (request : DHCPPacket) :
    Except DHCPError Bytes := do
  let bootFileBytes ← encode (proxy.bootFile request)
  let response := setSlice 236 240 magicCookie (offerHeader request bootFileBytes)
  let response := setSlice 240 243 [53, 1, 2] response
  let serverIp ← parseIp r proxy.tftpServer
  let response := setSlice 243 249 ([54, 4] ++ serverIp) response
  let (response, i) ← putServerName proxy request response 249
  let (response, i) ← putText response i 67 bootFileBytes
  putEnd response i

/-! ## §3. Addresses. -/

/-- A number of a dotted quad. -/
structure Octet where
  text : List Char
  nonempty : text ≠ []
  short : text.length ≤ 3
  digits : ∀ c ∈ text, c.isDigit = true
  small : decimal text < 256

def Octet.byte (o : Octet) : UInt8 := UInt8.ofNat (decimal o.text)

/-- `a.b.c.d`. -/
def dottedQuad (a b c d : Octet) : List Char :=
  ['.'].intercalate [a.text, b.text, c.text, d.text]

theorem Octet.notMem {c : Char} (o : Octet) (h : c.isDigit = false) : c ∉ o.text := by
  intro hc
  rw [o.digits c hc] at h
  cases h

theorem isAscii_of_isDigit {c : Char} (h : c.isDigit = true) : c.toNat < 128 := by
  unfold Char.isDigit at h
  simp only [Bool.and_eq_true, decide_eq_true_eq] at h
  have hle : c.toNat ≤ 57 := h.2
  omega

theorem Octet.isAscii (o : Octet) : IsAscii o.text :=
  fun c hc => isAscii_of_isDigit (o.digits c hc)

theorem dottedQuad_eq (a b c d : Octet) :
    dottedQuad a b c d
      = a.text ++ '.' :: (b.text ++ '.' :: (c.text ++ '.' :: d.text)) := by
  simp [dottedQuad, List.intercalate]

theorem isAscii_dottedQuad (a b c d : Octet) : IsAscii (dottedQuad a b c d) := by
  have hdot : IsAscii ['.'] := by decide
  rw [dottedQuad_eq]
  exact a.isAscii.append (hdot.append (b.isAscii.append (hdot.append
    (c.isAscii.append (hdot.append d.isAscii)))))

theorem length_dottedQuad_le (a b c d : Octet) : (dottedQuad a b c d).length ≤ 15 := by
  have ha := a.short
  have hb := b.short
  have hc := c.short
  have hd := d.short
  rw [dottedQuad_eq]
  simp only [List.length_append, List.length_cons]
  omega

theorem colon_notMem_dottedQuad (a b c d : Octet) : ':' ∉ dottedQuad a b c d := by
  rw [dottedQuad_eq]
  simp [a.notMem (c := ':') rfl, b.notMem (c := ':') rfl, c.notMem (c := ':') rfl,
    d.notMem (c := ':') rfl]

theorem splitOn_dottedQuad (a b c d : Octet) :
    (dottedQuad a b c d).splitOn '.' = [a.text, b.text, c.text, d.text] := by
  have hsplit (o : Octet) : o.text.splitOn '.' = [o.text] :=
    List.splitOn_eq_singleton (o.notMem rfl)
  rw [dottedQuad_eq, List.splitOn_append_cons_self, List.splitOn_append_cons_self,
    List.splitOn_append_cons_self, hsplit, hsplit, hsplit, hsplit]
  rfl

theorem byteOf_of_lt {n : Nat} (h : n < 256) : byteOf n = .ok (UInt8.ofNat n) := by
  unfold byteOf
  rw [if_pos ⟨by omega, by omega⟩]
  rfl

theorem parseOctet_eq (r : IntReader) (o : Octet) : parseOctet r o.text = .ok o.byte := by
  unfold parseOctet
  rw [r.int_digits o.text o.nonempty o.digits]
  exact byteOf_of_lt o.small

/-- **AN ADDRESS IS READ** as its four bytes. -/
theorem parseIp_dottedQuad (r : IntReader) (a b c d : Octet) :
    parseIp r (dottedQuad a b c d) = .ok [a.byte, b.byte, c.byte, d.byte] := by
  unfold parseIp
  rw [List.splitOn_eq_singleton (colon_notMem_dottedQuad a b c d)]
  show ((dottedQuad a b c d).splitOn '.').mapM (parseOctet r) = _
  rw [splitOn_dottedQuad]
  simp only [List.mapM_cons, List.mapM_nil, parseOctet_eq]
  rfl

/-! ## §4. The bytes of an offer. -/

theorem encode_of_isAscii {text : List Char} (h : IsAscii text) :
    encode text = .ok (text.map asciiByte) := by
  unfold encode
  rw [encodeAscii_of_isAscii h]

/-- The buffer is written up to `i`. -/
structure Written (header options : Bytes) (i : Nat) (response : Bytes) : Prop where
  size : response.length = 512
  upTo : response.take i = header ++ magicCookie ++ options

theorem Written.put {header options response value : Bytes} {i j : Nat}
    (h : Written header options i response) (hj : j = i + value.length) (hroom : j ≤ 512) :
    Written header (options ++ value) j (setSlice i j value response) := by
  have hfits : FitsSlice i j value response := ⟨by omega, by omega, by rw [h.size]; exact hroom⟩
  constructor
  · rw [length_setSlice hfits]
    exact h.size
  · rw [take_setSlice hfits, h.upTo, List.append_assoc _ options]

theorem putEnd_eq {header options response : Bytes} {i : Nat}
    (h : Written header options i response) (hi : i < 512) :
    putEnd response i = .ok (header ++ magicCookie ++ (options ++ [255])) := by
  have hroom : i < response.length := by rw [h.size]; exact hi
  have hlen : (response.take i ++ [255]).length = i + 1 := by
    rw [List.length_append, List.length_take, Nat.min_eq_left hroom.le]
    rfl
  have htake : (response.set i 255).take (i + 1) = response.take i ++ [255] := by
    rw [List.set_eq_take_append_cons_drop, if_pos hroom,
      List.append_cons, List.take_left' hlen]
  unfold putEnd
  rw [if_pos hroom, htake, h.upTo, List.append_assoc _ options]

/-- A text with a NUL behind it, as an option. -/
def textOption (code : UInt8) (text : Bytes) (hpad : code ≠ 0) (hend : code ≠ 255)
    (hfits : text.length < 255) : DHCPOption where
  code := code
  data := text ++ [0]
  not_pad := hpad
  not_end := hend
  fits := by rw [List.length_append]; exact Nat.succ_lt_succ hfits

theorem putText_eq {header options response text : Bytes} {i : Nat} {code : UInt8}
    (h : Written header options i response) (hpad : code ≠ 0) (hend : code ≠ 255)
    (hfits : text.length < 255) (hroom : i + 2 + text.length + 1 ≤ 512) :
    ∃ response', putText response i code text = .ok (response', i + 2 + text.length + 1) ∧
      Written header (options ++ (Item.option (textOption code text hpad hend hfits)).bytes)
        (i + 2 + text.length + 1) response' := by
  have hsize : byteOf (text.length + 1 : Int) = .ok (UInt8.ofNat (text.length + 1)) :=
    byteOf_of_lt (n := text.length + 1) (by omega)
  have hbytes : (Item.option (textOption code text hpad hend hfits)).bytes
      = code :: UInt8.ofNat (text.length + 1) :: (text ++ [0]) := by
    show code :: UInt8.ofNat (text ++ [0]).length :: (text ++ [0]) = _
    rw [List.length_append]
    rfl
  refine ⟨_, ?_, h.put ?_ hroom⟩
  · unfold putText
    rw [hsize, ok_bind, hbytes]
  · rw [hbytes]
    simp only [List.length_cons, List.length_append, List.length_nil]
    omega

/-- What is needed of a request. -/
structure Fitting (request : DHCPPacket) : Prop where
  xid : request.xid.length = 4
  clientMac : request.clientMac.length = request.hlen.toNat
  hlen : request.hlen.toNat ≤ 16

/-- The fields before the cookie, as they stand in the buffer. -/
structure HeaderFor (request : DHCPPacket) (response : Bytes) : Prop where
  size : response.length = 512
  op : response[0]? = some 2
  htype : response[1]? = some request.htype
  hlen : response[2]? = some request.hlen
  xid : slice 4 8 response = request.xid
  clientMac : slice 28 (28 + request.hlen.toNat) response = request.clientMac

/-- What is written behind the hardware address leaves the header alone. -/
theorem HeaderFor.setSlice {request : DHCPPacket} {response value : Bytes} {i j : Nat}
    (h : HeaderFor request response) (hfits : FitsSlice i j value response)
    (hi : 28 + request.hlen.toNat ≤ i) : HeaderFor request (setSlice i j value response) where
  size := (length_setSlice hfits).trans h.size
  op := (getElem?_setSlice_of_lt hfits (by omega)).trans h.op
  htype := (getElem?_setSlice_of_lt hfits (by omega)).trans h.htype
  hlen := (getElem?_setSlice_of_lt hfits (by omega)).trans h.hlen
  xid := (slice_setSlice_of_le hfits (by omega)).trans h.xid
  clientMac := (slice_setSlice_of_le hfits hi).trans h.clientMac

/-- The first three bytes of the buffer. -/
theorem setFirst_eq (htype hlen : UInt8) :
    ∃ base : Bytes, base = (((List.replicate 512 0).set 0 2).set 1 htype).set 2 hlen ∧
      base.length = 512 ∧ base[0]? = some 2 ∧ base[1]? = some htype ∧ base[2]? = some hlen := by
  have hlen512 : (List.replicate 512 (0 : UInt8)).length = 512 := List.length_replicate ..
  generalize List.replicate 512 (0 : UInt8) = buffer at hlen512 ⊢
  refine ⟨_, rfl, ?_, ?_, ?_, ?_⟩
  · simpa using hlen512
  · rw [List.getElem?_set_ne (by decide), List.getElem?_set_ne (by decide),
      List.getElem?_set_self (by omega)]
  · rw [List.getElem?_set_ne (by decide), List.getElem?_set_self (by simp; omega)]
  · rw [List.getElem?_set_self (by simp; omega)]

theorem headerFor_offerHeader {request : DHCPPacket} (h : Fitting request)
    (bootFileBytes : Bytes) : HeaderFor request (offerHeader request bootFileBytes) := by
  have hhlen := h.hlen
  -- the three bytes, then the transaction, then the hardware address
  obtain ⟨base, hbase, hsize, hop, htype, hlen⟩ := setFirst_eq request.htype request.hlen
  have hxid : FitsSlice 4 8 request.xid base := ⟨by omega, by rw [h.xid], by rw [hsize]; omega⟩
  have hmac : FitsSlice 28 (28 + request.hlen.toNat) request.clientMac
      (setSlice 4 8 request.xid base) :=
    ⟨by omega, by rw [h.clientMac]; omega, by rw [length_setSlice hxid, hsize]; omega⟩
  have hfields : HeaderFor request (Lib.setSlice 28 (28 + request.hlen.toNat) request.clientMac
      (setSlice 4 8 request.xid base)) := by
    refine ⟨?_, ?_, ?_, ?_, ?_, slice_setSlice hmac⟩
    · rw [length_setSlice hmac, length_setSlice hxid, hsize]
    · rw [getElem?_setSlice_of_lt hmac (by omega), getElem?_setSlice_of_lt hxid (by omega), hop]
    · rw [getElem?_setSlice_of_lt hmac (by omega), getElem?_setSlice_of_lt hxid (by omega), htype]
    · rw [getElem?_setSlice_of_lt hmac (by omega), getElem?_setSlice_of_lt hxid (by omega), hlen]
    · rw [slice_setSlice_of_le hmac (by omega), slice_setSlice hxid]
  unfold offerHeader
  dsimp only
  rw [← hbase]
  split
  next => exact hfields
  next =>
    have hshort : (bootFileBytes.take 63).length ≤ 63 := by
      rw [List.length_take]
      exact Nat.min_le_left ..
    exact hfields.setSlice ⟨by omega, by omega, by rw [hfields.size]; omega⟩ (by omega)

/-- Option 66 of an offer. -/
def serverNameItems (isIpxe : Bool) (tftpBytes : Bytes) (htftp : tftpBytes.length < 255) :
    List Item :=
  if isIpxe then [] else [.option (textOption 66 tftpBytes (by decide) (by decide) htftp)]

/-- The options of an offer. -/
def offerItems (isIpxe : Bool) (serverIp tftpBytes bootFileBytes : Bytes)
    (hip : serverIp.length < 256) (htftp : tftpBytes.length < 255)
    (hboot : bootFileBytes.length < 255) : List Item :=
  .option ⟨53, [2], by decide, by decide, by decide⟩ ::
    .option ⟨54, serverIp, by decide, by decide, hip⟩ ::
    (serverNameItems isIpxe tftpBytes htftp
      ++ [.option (textOption 67 bootFileBytes (by decide) (by decide) hboot)])

theorem putServerName_eq {proxy : DHCPProxy} (request : DHCPPacket)
    {header options response : Bytes} (h : Written header options 249 response)
    (hascii : IsAscii proxy.tftpServer) (hshort : proxy.tftpServer.length ≤ 15)
    (htftp : (proxy.tftpServer.map asciiByte).length < 255) :
    ∃ response' i, putServerName proxy request response 249 = .ok (response', i) ∧ i ≤ 267 ∧
      Written header (options ++ (serverNameItems request.isIpxe
        (proxy.tftpServer.map asciiByte) htftp).flatMap Item.bytes) i response' := by
  unfold putServerName serverNameItems
  cases request.isIpxe with
  | true =>
      refine ⟨response, 249, rfl, by omega, ?_⟩
      rw [if_pos rfl, List.flatMap_nil, List.append_nil]
      exact h
  | false =>
      rw [if_neg Bool.noConfusion, if_neg Bool.noConfusion, encode_of_isAscii hascii, ok_bind]
      obtain ⟨response', hput, hwritten⟩ := putText_eq h (show (66 : UInt8) ≠ 0 by decide)
        (by decide) htftp (by rw [List.length_map]; omega)
      refine ⟨response', _, hput, by rw [List.length_map]; omega, ?_⟩
      rw [List.flatMap_singleton]
      exact hwritten

/-- **THE BYTES OF AN OFFER** are a datagram: the header for the request, and the options. -/
theorem buildOffer_eq (r : IntReader) {proxy : DHCPProxy} {request : DHCPPacket}
    {a b c d : Octet} (hfit : Fitting request) (hquad : proxy.tftpServer = dottedQuad a b c d)
    (hascii : IsAscii (proxy.bootFile request)) (hboot : (proxy.bootFile request).length ≤ 200)
    (hip : [a.byte, b.byte, c.byte, d.byte].length < 256)
    (htftp : (proxy.tftpServer.map asciiByte).length < 255)
    (hfile : ((proxy.bootFile request).map asciiByte).length < 255) :
    buildOffer r proxy request
      = .ok (datagram ((offerHeader request ((proxy.bootFile request).map asciiByte)).take 236)
          (offerItems request.isIpxe [a.byte, b.byte, c.byte, d.byte]
            (proxy.tftpServer.map asciiByte) ((proxy.bootFile request).map asciiByte)
            hip htftp hfile) []) := by
  have hheader := headerFor_offerHeader hfit ((proxy.bootFile request).map asciiByte)
  have hcookie : FitsSlice 236 240 magicCookie
      (offerHeader request ((proxy.bootFile request).map asciiByte)) :=
    ⟨by omega, rfl, by rw [hheader.size]; omega⟩
  have hstart : Written ((offerHeader request ((proxy.bootFile request).map asciiByte)).take 236)
      [] 240 (setSlice 236 240 magicCookie
        (offerHeader request ((proxy.bootFile request).map asciiByte))) :=
    ⟨(length_setSlice hcookie).trans hheader.size, by
      rw [take_setSlice hcookie, List.append_nil]⟩
  -- one option after the other
  have htype : Written _ ([] ++ [53, 1, 2]) 243 (setSlice 240 243 [53, 1, 2] _) :=
    hstart.put rfl (by omega)
  have hserver : Written _ _ 249 (setSlice 243 249
      ([54, 4] ++ [a.byte, b.byte, c.byte, d.byte]) _) := htype.put rfl (by omega)
  obtain ⟨response, i, hname, hi, hwritten⟩ := putServerName_eq request hserver
    (by rw [hquad]; exact isAscii_dottedQuad a b c d)
    (by rw [hquad]; exact length_dottedQuad_le a b c d) htftp
  obtain ⟨response', hput, hwritten'⟩ := putText_eq hwritten (show (67 : UInt8) ≠ 0 by decide)
    (by decide) hfile (by rw [List.length_map]; omega)
  have hparse : parseIp r proxy.tftpServer = .ok [a.byte, b.byte, c.byte, d.byte] := by
    rw [hquad]
    exact parseIp_dottedQuad r a b c d
  unfold buildOffer
  rw [encode_of_isAscii hascii, ok_bind]
  dsimp only
  rw [hparse, ok_bind, hname, ok_bind]
  dsimp only
  rw [hput, ok_bind]
  dsimp only
  rw [putEnd_eq hwritten' (by rw [List.length_map]; omega)]
  unfold datagram offerItems
  simp only [List.flatMap_cons, List.flatMap_append, List.flatMap_nil, List.append_nil,
    List.append_assoc]
  rfl

/-! ## §5. What a client reads. -/

theorem fitting_of_parse {data : Bytes} {request : DHCPPacket}
    (h : DHCPPacket.parse data = .ok request) (hhlen : request.hlen.toNat ≤ 16) :
    Fitting request := by
  unfold DHCPPacket.parse at h
  split at h
  next => cases h
  next hlen =>
    obtain ⟨op, -, h⟩ := bind_eq_ok.mp h
    obtain ⟨htype, -, h⟩ := bind_eq_ok.mp h
    obtain ⟨hlen', -, h⟩ := bind_eq_ok.mp h
    obtain ⟨found, -, h⟩ := bind_eq_ok.mp h
    cases h
    have hlen16 : hlen'.toNat ≤ 16 := hhlen
    refine ⟨?_, ?_, hlen16⟩
    · simp only [slice, List.length_drop, List.length_take]
      omega
    · simp only [slice, List.length_drop, List.length_take]
      omega

/-- The header that is read of an offer is the one for the request. -/
theorem headerOf_offer {request reply : DHCPPacket} {response : Bytes} {items : List Item}
    {tail : Bytes} (hfit : Fitting request) (h : HeaderFor request response)
    (hread : HeaderOf (datagram (response.take 236) items tail) reply) :
    reply.op = 2 ∧ reply.xid = request.xid ∧ reply.htype = request.htype ∧
      reply.hlen = request.hlen ∧ reply.clientMac = request.clientMac := by
  have hhlen := hfit.hlen
  have hlen : (response.take 236).length = 236 := by
    rw [List.length_take, h.size]
    rfl
  have htake : (datagram (response.take 236) items tail).take 236 = response.take 236 := by
    unfold datagram
    rw [List.append_assoc, List.take_left' hlen]
  have hbyte (k : Nat) (hk : k < 236) :
      (datagram (response.take 236) items tail)[k]? = response[k]? := by
    rw [← List.getElem?_take_of_lt hk, htake, List.getElem?_take_of_lt hk]
  have hslice (i j : Nat) (hj : j ≤ 236) :
      slice i j (datagram (response.take 236) items tail) = slice i j response := by
    rw [← slice_take hj, htake, slice_take hj]
  have hsame : reply.hlen = request.hlen :=
    Option.some.inj (hread.hlen.symm.trans ((hbyte 2 (by omega)).trans h.hlen))
  refine ⟨?_, ?_, ?_, hsame, ?_⟩
  · exact Option.some.inj (hread.op.symm.trans ((hbyte 0 (by omega)).trans h.op))
  · rw [hread.xid, hslice 4 8 (by omega), h.xid]
  · exact Option.some.inj (hread.htype.symm.trans ((hbyte 1 (by omega)).trans h.htype))
  · rw [hread.clientMac, hsame, hslice _ _ (by omega), h.clientMac]

theorem isAscii_bootFile {proxy : DHCPProxy} (request : DHCPPacket)
    (h : IsAscii proxy.httpServer) : IsAscii (proxy.bootFile request) := by
  unfold DHCPProxy.bootFile
  split
  next =>
    have hscheme : IsAscii "http://".toList := by decide
    have hpath : IsAscii "/api/v1/ipxe/boot.ipxe".toList := by decide
    exact (hscheme.append h).append hpath
  next =>
    unfold getBootFile
    cases request.clientArch.getD .bios with
    | bios => decide
    | uefiX64 => decide
    | uefiX64Alt => decide

theorem length_bootFile_le {proxy : DHCPProxy} (request : DHCPPacket)
    (h : proxy.getIpxeScriptUrl.length ≤ 200) : (proxy.bootFile request).length ≤ 200 := by
  unfold DHCPProxy.bootFile
  split
  next => exact h
  next =>
    unfold getBootFile
    cases request.clientArch.getD .bios with
    | bios => decide
    | uefiX64 => decide
    | uefiX64Alt => decide

/-- The pairs of codes and data of an offer. -/
theorem offerItems_pairs {isIpxe : Bool} {serverIp tftpBytes bootFileBytes : Bytes}
    (hip : serverIp.length < 256) (htftp : tftpBytes.length < 255)
    (hboot : bootFileBytes.length < 255) :
    (optionsOf (offerItems isIpxe serverIp tftpBytes bootFileBytes hip htftp hboot)).map
        (fun o => (o.code, o.data))
      = (53, [2]) :: (54, serverIp) :: ((if isIpxe then [] else [(66, tftpBytes ++ [0])])
          ++ [(67, bootFileBytes ++ [0])]) := by
  cases isIpxe <;> rfl

/-- **THE OFFER ANSWERS THE REQUEST**: for a server at a dotted quad whose script URL has at
most 200 bytes, the offer is read as a reply with the transaction and the hardware address of
the request, with the boot file for the client, and with no option but those of a reply. -/
theorem offer_answers (r : IntReader) (a b c d : Octet) (httpServer : List Char)
    (hascii : IsAscii httpServer)
    (hurl : (DHCPProxy.getIpxeScriptUrl ⟨dottedQuad a b c d, httpServer⟩).length ≤ 200)
    (data : Bytes) (request : DHCPPacket) (hrequest : DHCPPacket.parse data = .ok request)
    (hhlen : request.hlen.toNat ≤ 16) :
    ∃ offer reply, buildOffer r ⟨dottedQuad a b c d, httpServer⟩ request = .ok offer ∧
      DHCPPacket.parse offer = .ok reply ∧
      (reply.op = 2 ∧ reply.xid = request.xid ∧ reply.htype = request.htype ∧
        reply.hlen = request.hlen ∧ reply.clientMac = request.clientMac) ∧
      Dict.get reply.options 53 = some [2] ∧
      Dict.get reply.options 54 = some [a.byte, b.byte, c.byte, d.byte] ∧
      Dict.get reply.options 67 = some ((if request.isIpxe then
          DHCPProxy.getIpxeScriptUrl ⟨dottedQuad a b c d, httpServer⟩
        else getBootFile request.clientArch).map asciiByte ++ [0]) ∧
      Dict.get reply.options 66 = (if request.isIpxe then none
        else some ((dottedQuad a b c d).map asciiByte ++ [0])) ∧
      ∀ code, code ∉ [53, 54, 66, 67] → Dict.get reply.options code = none := by
  have hfit := fitting_of_parse hrequest hhlen
  have hfile := length_bootFile_le request hurl
  have hquad := length_dottedQuad_le a b c d
  have hip : [a.byte, b.byte, c.byte, d.byte].length < 256 := by
    show 4 < 256
    omega
  have htftp : ((dottedQuad a b c d).map asciiByte).length < 255 := by
    rw [List.length_map]
    omega
  have hboot : (((DHCPProxy.mk (dottedQuad a b c d) httpServer).bootFile request).map
      asciiByte).length < 255 := by
    rw [List.length_map]
    omega
  have hoffer : buildOffer r ⟨dottedQuad a b c d, httpServer⟩ request = .ok _ :=
    buildOffer_eq r hfit rfl (isAscii_bootFile request hascii) hfile hip htftp hboot
  have hheader := headerFor_offerHeader hfit
    (((DHCPProxy.mk (dottedQuad a b c d) httpServer).bootFile request).map asciiByte)
  have hlen : ((offerHeader request (((DHCPProxy.mk (dottedQuad a b c d) httpServer).bootFile
      request).map asciiByte)).take 236).length = 236 := by
    rw [List.length_take, hheader.size]
    rfl
  obtain ⟨reply, hreply, hread, -, -, hreplyOptions⟩ := parse_items hlen _ []
  refine ⟨_, reply, hoffer, hreply, headerOf_offer hfit hheader hread, ?_⟩
  -- the offer is a datagram of its items, so the parser has the last value of each code
  have hoptions (code : UInt8) := (congrArg (fun options => Dict.get options code)
    hreplyOptions).trans (get_learned _ code)
  rw [offerItems_pairs hip htftp hboot] at hoptions
  refine ⟨?_, ?_, ?_, ?_, fun code hcode => ?_⟩
  · rw [hoptions]
    cases request.isIpxe <;> rfl
  · rw [hoptions]
    cases request.isIpxe <;> rfl
  · rw [hoptions, DHCPProxy.bootFile]
    cases request.isIpxe <;> rfl
  · rw [hoptions]
    cases request.isIpxe <;> rfl
  · simp only [List.mem_cons, List.not_mem_nil, or_false, not_or] at hcode
    rw [hoptions]
    cases request.isIpxe with
    | true => simp [Dict.lastValue, eq_comm, hcode]
    | false => simp [Dict.lastValue, eq_comm, hcode]

/-- `int` on decimal digits. -/
def digitReader : IntReader where
  int := fun text => if text ≠ [] ∧ text.all Char.isDigit = true then some (decimal text) else none
  int_digits := fun _ hne hdigits => if_pos ⟨hne, List.all_eq_true.mpr hdigits⟩

/-- A number of one digit. -/
def oneDigit (c : Char) (h : c.isDigit = true) : Octet where
  text := [c]
  nonempty := List.cons_ne_nil c []
  short := by simp
  digits := by simpa using h
  small := by
    have hc := isAscii_of_isDigit h
    show 10 * 0 + (c.toNat - 48) < 256
    omega

/-- A server at `9.9.9.9` answers a client with an Ethernet address. -/
theorem offer_answers_ethernet :
    ∃ request offer reply,
      DHCPPacket.parse (datagram (1 :: 1 :: 6 :: List.replicate 233 5) [] []) = .ok request ∧
      buildOffer digitReader ⟨"9.9.9.9".toList, "h".toList⟩ request = .ok offer ∧
      DHCPPacket.parse offer = .ok reply ∧ reply.op = 2 ∧ reply.hlen = 6 ∧
      Dict.get reply.options 54 = some [9, 9, 9, 9] := by
  obtain ⟨request, hrequest, hread, -⟩ := parse_items
    (show (1 :: 1 :: 6 :: List.replicate 233 (5 : UInt8)).length = 236 from rfl) [] []
  have hsix : request.hlen = 6 := (Option.some.inj hread.hlen).symm
  obtain ⟨offer, reply, hoffer, hreply, ⟨hop, -, -, hhlen, -⟩, -, haddress, -⟩ :=
    offer_answers digitReader (oneDigit '9' rfl) (oneDigit '9' rfl) (oneDigit '9' rfl)
      (oneDigit '9' rfl) "h".toList (by decide) (by decide) _ request hrequest
      (by rw [hsix]; decide)
  exact ⟨request, offer, reply, hrequest, hoffer, hreply, hop, hhlen.trans hsix,
    haddress.trans rfl⟩

end PureBoot.Dhcp
