import Ucanlab.Core.CanFrame
import Ucanlab.Lib.Placement

/-!
Firmware images: the resource bounds of their parsers, memory segments and the
merging of data records into them.
-/

namespace Ucanlab.Uds

open Ucanlab

structure FirmwareParseLimits where
  maxFileBytes : Nat := 128 * 1024 * 1024
  maxLines : Nat := 4000000
  maxLineChars : Nat := 1024
  maxSegments : Nat := 65536
  maxAddressSpan : Nat := 64 * 1024 * 1024
  maxGap : Nat := 1024 * 1024
  maxTotalPayloadBytes : Nat := 64 * 1024 * 1024
  deriving DecidableEq, Repr

def defaultFirmwareLimits : FirmwareParseLimits := {}

inductive FirmwareError where
  | fileSize (length limit : Nat)
  | lineCount (count limit : Nat)
  | lineLength (line length limit : Nat)
  | startCode (line : Nat)
  | hexDigits (line : Nat) (cause : String)
  | tooShort (line : Nat)
  | checksum (line : Nat)
  | payloadLength (line declared actual : Nat)
  | dataAfterEof (line : Nat)
  | eofLength (line length : Nat)
  | duplicateEof (line : Nat)
  | recordAfterEof (line : Nat)
  | segmentLength (line : Nat)
  | linearLength (line : Nat)
  | startLength (line length : Nat)
  | recordType (line type : Nat)
  | missingEof
  | noData
  | chunkCount (count limit : Nat)
  | totalPayload (length limit : Nat)
  | span (length limit : Nat)
  | overlap (current next : Nat)
  | gap (length limit : Nat)
  | segmentCount (count limit : Nat)
  deriving DecidableEq, Repr

structure MemorySegment where
  address : Nat
  data : Bytes
  deriving DecidableEq, Repr

namespace MemorySegment

def endAddress (segment : MemorySegment) : Nat := segment.address + segment.data.length

def chunk (segment : MemorySegment) : Nat × Bytes := (segment.address, segment.data)

end MemorySegment

structure FirmwareContainer where
  segments : List MemorySegment
  entryPoint : Option Nat
  fileFormat : String
  deriving DecidableEq, Repr

def FirmwareContainer.image (container : FirmwareContainer) : Placement UInt8 :=
  container.segments.map MemorySegment.chunk

def sortChunks (chunks : Placement UInt8) : Placement UInt8 :=
  chunks.insertionSort (fun left right => left.1 ≤ right.1)

def mergeChunks (limits : FirmwareParseLimits) (current : MemorySegment) :
    Placement UInt8 → Except FirmwareError (List MemorySegment)
  | [] => .ok [current]
  | (address, data) :: rest =>
      if address < current.endAddress then .error (.overlap current.address address)
      else if address = current.endAddress then
        mergeChunks limits { current with data := current.data ++ data } rest
      else if address - current.endAddress > limits.maxGap then
        .error (.gap (address - current.endAddress) limits.maxGap)
      else
        match mergeChunks limits ⟨address, data⟩ rest with
        | .error e => .error e
        | .ok later => .ok (current :: later)

def highestEnd (chunks : Placement UInt8) : Nat :=
  chunks.foldl (fun highest chunk => max highest (chunk.1 + chunk.2.length)) 0

def mergeAndValidateChunks (chunks : Placement UInt8) (limits : FirmwareParseLimits) :
    Except FirmwareError (List MemorySegment) :=
  if chunks.length > limits.maxLines then
    .error (.chunkCount chunks.length limits.maxLines)
  else
    let total := (chunks.map (fun chunk => chunk.2.length)).sum
    if total > limits.maxTotalPayloadBytes then
      .error (.totalPayload total limits.maxTotalPayloadBytes)
    else
      match sortChunks chunks with
      | [] => .ok []
      | (low, data) :: rest =>
          let span := highestEnd chunks - low
          if span > limits.maxAddressSpan then .error (.span span limits.maxAddressSpan)
          else
            match mergeChunks limits ⟨low, data⟩ rest with
            | .error e => .error e
            | .ok merged =>
                if merged.length > limits.maxSegments then
                  .error (.segmentCount merged.length limits.maxSegments)
                else .ok merged

section Merging

open Placement

variable {limits : FirmwareParseLimits} {current : MemorySegment} {chunks rest : Placement UInt8}
  {segments : List MemorySegment} {address : Nat} {value : UInt8}

theorem mergeChunks_ok (ok : mergeChunks limits current rest = .ok segments) :
    (∃ front later, segments = front :: later ∧ front.address = current.address) ∧
      Spaced (segments.map MemorySegment.chunk) ∧
      ∀ address value, Places (segments.map MemorySegment.chunk) address value ↔
        Places (current.chunk :: rest) address value := by
  induction rest generalizing current segments with
  | nil =>
      cases ok
      exact ⟨⟨current, [], rfl, rfl⟩, List.pairwise_singleton _ _, fun _ _ => Iff.rfl⟩
  | cons chunk rest ih =>
      obtain ⟨start, data⟩ := chunk
      unfold mergeChunks at ok
      split at ok
      · cases ok
      · split at ok
        · rename_i adjacent
          obtain ⟨front, spaced, placed⟩ := ih ok
          refine ⟨front, spaced, fun address value => ?_⟩
          rw [placed, adjacent]
          exact places_join
        · split at ok
          · cases ok
          · rename_i notBelow notAdjacent _
            split at ok
            · cases ok
            · rename_i later merged
              cases ok
              obtain ⟨⟨front, others, split, first⟩, spaced, placed⟩ := ih merged
              refine ⟨⟨current, later, rfl, rfl⟩, ?_, ?_⟩
              · refine List.pairwise_cons.mpr ⟨?_, spaced⟩
                intro other member
                have ahead : current.endAddress ≤ start := Nat.le_of_not_lt notBelow
                rw [split, List.map_cons] at member spaced
                dsimp only at first
                rcases List.mem_cons.mp member with same | behind
                · rw [same]
                  change current.endAddress ≤ front.address
                  omega
                · have apart := (List.pairwise_cons.mp spaced).1 other behind
                  change front.address + front.data.length ≤ other.1 at apart
                  change current.endAddress ≤ other.1
                  omega
              · intro address value
                rw [List.map_cons]
                unfold MemorySegment.chunk at placed ⊢
                rw [places_cons, places_cons, placed]

theorem sortChunks_perm (chunks : Placement UInt8) : (sortChunks chunks).Perm chunks :=
  List.perm_insertionSort _ chunks

theorem mergeAndValidateChunks_ok (ok : mergeAndValidateChunks chunks limits = .ok segments) :
    Spaced (segments.map MemorySegment.chunk) ∧
      ∀ address value, Places (segments.map MemorySegment.chunk) address value ↔
        Places chunks address value := by
  unfold mergeAndValidateChunks at ok
  dsimp only at ok
  split at ok
  · cases ok
  · split at ok
    · cases ok
    · have perm := sortChunks_perm chunks
      split at ok
      · rename_i sorted
        cases ok
        rw [sorted] at perm
        have none' : chunks = [] := List.nil_perm.mp perm
        rw [none']
        exact ⟨List.Pairwise.nil, fun _ _ => Iff.rfl⟩
      · rename_i low data rest sorted
        split at ok
        · cases ok
        · split at ok
          · cases ok
          · rename_i merged mergedOk
            split at ok
            · cases ok
            · cases ok
              obtain ⟨_, spaced, placed⟩ := mergeChunks_ok mergedOk
              rw [sorted] at perm
              exact ⟨spaced, fun address value => (placed address value).trans (Places.perm perm)⟩

end Merging

end Ucanlab.Uds
