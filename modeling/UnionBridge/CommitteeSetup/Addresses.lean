import UnionBridge.CommitteeSetup.Flow

/-!
# The addresses of a committee (`transaction-dispatcher/src/types.rs`, `setup_committee_flow.rs`)

Each member deposits its address for every other one, in words of 32 bytes behind a length of two bytes,
and zeroes for itself. A member reads what the others have deposited for it and puts its own address where
it reads nothing.
-/

namespace UnionBridge.CommitteeSetup

open Bitvmx Contracts Effect

/-! ## Bytes in the storage of the contracts -/

/-- Bytes that fit behind their length come back as they were, also where they end in zeroes. -/
theorem fbArrayToBytes_of_bytesToFbArray {bytes : Bytes} (h : bytes.length ≤ 254) :
    ∃ data, bytesToFbArray bytes = .ok data ∧ fbArrayToBytes data = .ok bytes := by
  let buf := toBE 2 bytes.length ++ bytes ++ List.replicate (254 - bytes.length) 0
  have hbuf : buf.length = 32 * 8 := by simp [buf]; omega
  have hlen : beNat (buf.take 2) = bytes.length := by
    simp only [buf, List.append_assoc, List.take_left' (length_toBE _ _)]
    exact beNat_toBE (by omega)
  have hbytes : (buf.drop 2).take bytes.length = bytes := by
    simp only [buf, List.append_assoc, List.drop_left' (length_toBE _ _), List.take_left]
  refine ⟨_, if_neg (by omega), ?_⟩
  simp only [fbArrayToBytes, List.Vector.toList_ofFn]
  rw [U256.flatMap_toBigEndian_ofFn 8 hbuf, hlen, hbytes, hbuf, if_neg (by omega)]

/-! ## Addresses -/

/-- What the libraries do with an address: the bytes of its multiaddress fit into the storage and decode
to the text they are from, which has two parts, and its own text parses. -/
structure KeepsAddress (libs : Libs) (address : SocketAddr) : Prop where
  stored : ∃ bytes, libs.multiaddrToBytes (multiaddrText libs address) = some bytes ∧ bytes ≠ []
    ∧ bytes.length ≤ 254 ∧ libs.multiaddrFromBytes bytes = some (multiaddrText libs address)
  parts : libs.parseMultiaddr (multiaddrText libs address) = some
    [match address.ip with
      | .v4 ip => .ip4 ip
      | .v6 ip => .ip6 ip, .tcp address.port]
  printed : libs.socketAddrToString address ≠ ""
    ∧ libs.parseSocketAddr (libs.socketAddrToString address) = some address

variable {libs : Libs} {address : SocketAddr}

theorem socketAddrFromContracts_of_toContracts (h : KeepsAddress libs address) :
    ∃ data, socketAddrToContracts libs address = .ok data
      ∧ P2PAddressParser.socketAddrFromContracts libs.toLibs data = .ok (some address) := by
  obtain ⟨bytes, hto, hne, hfits, hfrom⟩ := h.stored
  obtain ⟨data, hdata, hbytes⟩ := fbArrayToBytes_of_bytesToFbArray hfits
  have htext : (multiaddrText libs address).isEmpty = false := by
    unfold multiaddrText
    split <;> simp
  have hparsed : P2PAddressParser.multiaddrToSocketAddr libs.toLibs (multiaddrText libs address)
      = .ok address := by
    rw [P2PAddressParser.multiaddrToSocketAddr, h.parts]
    cases address with | mk ip port => cases ip <;> rfl
  refine ⟨⟨data⟩, ?_, ?_⟩
  · simp only [socketAddrToContracts, hto, hdata]
    rfl
  · have haddr : P2PAddressParser.addrFromContracts libs.toLibs ⟨data⟩
        = .ok (multiaddrText libs address) := by
      simp only [P2PAddressParser.addrFromContracts, hbytes]
      simp [bind, Except.bind, hne, hfrom, pure, Except.pure]
    simp only [P2PAddressParser.socketAddrFromContracts, haddr]
    simp [bind, Except.bind, htext, hparsed, Functor.map, Except.map]

theorem socketAddrFromContracts_zero :
    P2PAddressParser.socketAddrFromContracts libs.toLibs ⟨List.Vector.replicate 8 0⟩ = .ok none := by
  have hbytes : fbArrayToBytes (List.Vector.replicate 8 0) = .ok [] := by decide +kernel
  simp only [P2PAddressParser.socketAddrFromContracts, P2PAddressParser.addrFromContracts, hbytes]
  rfl

theorem memberAddressText_deposited {own other : Config} {member : MemberOfCommittee}
    (reader : MemberOfCommittee) (hown : own.libs = libs) (hme : own.myAddress = member.address)
    (hother : other.libs = libs) (h : KeepsAddress libs address) :
    ∃ data, memberCommunicationData own address reader = (pure data : Program Flow _)
      ∧ memberAddressText other data = (pure (if reader.address = member.address then ""
        else libs.socketAddrToString address) : Program Flow _) := by
  obtain ⟨data, hto, hfrom⟩ := socketAddrFromContracts_of_toContracts h
  by_cases heq : reader.address = member.address
  · refine ⟨_, if_pos (heq.trans hme.symm), ?_⟩
    rw [memberAddressText, hother, socketAddrFromContracts_zero, if_pos heq]
    rfl
  · refine ⟨data, ?_, ?_⟩
    · rw [memberCommunicationData, if_neg (hme ▸ heq), hown, hto]
      rfl
    · rw [memberAddressText, hother, hfrom, if_neg heq]
      rfl

/-- **All members of a committee build the same list of addresses.** What each one deposits for a reader
is accepted, and from what it reads, the reader builds the addresses of all members, its own one at its
own place. -/
theorem members_agree_on_addresses {members : List MemberOfCommittee}
    {config : MemberOfCommittee → Config} {address : MemberOfCommittee → SocketAddr}
    {hashes : List String} {reader : MemberOfCommittee}
    (hnodes : ∀ m ∈ members, (config m).libs = libs ∧ (config m).myAddress = m.address
      ∧ KeepsAddress libs (address m))
    (hdistinct : (members.map (·.address)).Nodup) (hreader : reader ∈ members)
    (hhashes : members.length = hashes.length) :
    ∃ deposited : MemberOfCommittee → CommunicationData,
      (∀ m ∈ members, memberCommunicationData (config m) (address m) reader
        = (pure (deposited m) : Program Flow _))
      ∧ ∃ texts, (members.map deposited).mapM (memberAddressText (config reader))
          = (pure texts : Program Flow _)
        ∧ buildCommunicationData libs.toLibs (libs.socketAddrToString (address reader)) texts hashes
          = .ok ((members.zip hashes).map fun (m, hash) => ⟨address m, hash⟩) := by
  have : Nonempty CommunicationData := ⟨⟨.replicate 8 0⟩⟩
  have heach : ∀ m ∈ members, ∃ data, _ := fun m hm =>
    memberAddressText_deposited reader (hnodes m hm).1 (hnodes m hm).2.1
      (hnodes reader hreader).1 (hnodes m hm).2.2
  choose! deposited hdeposited hread using heach
  refine ⟨deposited, hdeposited, _, List.mapM_map.trans (mapM_eq_pure hread), ?_⟩
  rw [buildCommunicationData, if_neg (by simpa using hhashes), List.zip_map_left, List.mapM_map]
  refine mapM_eq_pure fun ⟨m, hash⟩ hmem => ?_
  have hm := (List.of_mem_zip hmem).1
  obtain ⟨htext, hparse⟩ := (hnodes m hm).2.2.printed
  by_cases heq : reader.address = m.address
  · -- nothing was deposited, so the address of the reader stands in
    obtain rfl := List.inj_on_of_nodup_map hdistinct hreader hm heq
    simp [hparse, pure, Except.pure]
  · simp [heq, htext, hparse, pure, Except.pure]

theorem members_agree_on_addresses_two :
    ∃ texts, buildCommunicationData Libs.sample.toLibs "127.0.0.1:8080" texts ["a", "b"]
      = .ok [⟨⟨.v4 0x7f000001, 8080⟩, "a"⟩, ⟨⟨.v4 0x7f000001, 8080⟩, "b"⟩] := by
  have hkeeps : KeepsAddress Libs.sample ⟨.v4 0x7f000001, 8080⟩ :=
    ⟨⟨_, rfl, by decide +kernel, by decide +kernel, by decide +kernel⟩, by decide +kernel,
      by decide +kernel⟩
  let member (address : Address) : MemberOfCommittee := ⟨address, .prover, ⟨[]⟩, ⟨[]⟩, sampleUtxo, 0⟩
  have hnodes : ∀ m ∈ [member 1, member 2], (Config.sample m.address).libs = Libs.sample
      ∧ (Config.sample m.address).myAddress = m.address
      ∧ KeepsAddress Libs.sample ⟨.v4 0x7f000001, 8080⟩ := fun _ _ => ⟨rfl, rfl, hkeeps⟩
  have hhashes : [member 1, member 2].length = ["a", "b"].length := rfl
  obtain ⟨_, _, texts, _, h⟩ :=
    members_agree_on_addresses hnodes (by decide) List.mem_cons_self hhashes
  exact ⟨texts, h⟩

end UnionBridge.CommitteeSetup
