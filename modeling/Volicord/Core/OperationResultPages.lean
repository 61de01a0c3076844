import Volicord.Core.OperationResult

/-! Following the cursors of a stored response reads all of it, whatever is committed meanwhile, and
a cursor is good for one reference and one offset only. -/
namespace Volicord
open Result Framing
variable {cursor digest key toolName : String} {record : ToolInvocationRecord} {text : List Char}
  {n offset : Nat}

/- Byte offsets. -/

@[simp] theorem byteLength_nil : byteLength [] = 0 := rfl

theorem byteLength_cons (c : Char) (text : List Char) :
    byteLength (c :: text) = c.utf8Size + byteLength text := by
  rw [byteLength, List.flatMap_cons, List.length_append, String.length_utf8EncodeChar, byteLength]

theorem byteLength_append (a b : List Char) :
    byteLength (a ++ b) = byteLength a + byteLength b := by
  rw [byteLength, List.flatMap_append, List.length_append, byteLength, byteLength]

theorem byteLength_pos (h : text ≠ []) : 0 < byteLength text := by
  obtain ⟨c, rest, rfl⟩ := List.exists_cons_of_ne_nil h
  have hpos := Char.utf8Size_pos c
  rw [byteLength_cons]
  omega

theorem splitBytes_append (a b : List Char) : splitBytes (a ++ b) (byteLength a) = some (a, b) := by
  induction a with
  | nil =>
    cases b <;> rfl
  | cons c a ih =>
    have hpos := Char.utf8Size_pos c
    obtain ⟨n, hn⟩ : ∃ n, c.utf8Size + byteLength a = n + 1 :=
      ⟨_, (Nat.sub_add_cancel (by omega)).symm⟩
    have hrest : n + 1 - c.utf8Size = byteLength a := by omega
    rw [byteLength_cons, hn, List.cons_append, splitBytes, if_pos (by omega), hrest, ih]
    rfl

theorem splitBytes_eq_some {a b : List Char}
    (h : splitBytes text n = some (a, b)) : text = a ++ b ∧ byteLength a = n := by
  induction text generalizing n a with
  | nil =>
    cases n with
    | zero =>
      obtain ⟨rfl, rfl⟩ := Prod.mk.inj (Option.some.inj h)
      exact ⟨rfl, rfl⟩
    | succ n => cases h
  | cons c text ih =>
    cases n with
    | zero =>
      obtain ⟨rfl, rfl⟩ := Prod.mk.inj (Option.some.inj h)
      exact ⟨rfl, rfl⟩
    | succ n =>
      rw [splitBytes] at h
      split_ifs at h with hle
      obtain ⟨⟨a', b'⟩, hrest, heq⟩ := Option.map_eq_some_iff.mp h
      obtain ⟨rfl, rfl⟩ := Prod.mk.inj heq
      obtain ⟨rfl, hlength⟩ := ih hrest
      refine ⟨rfl, ?_⟩
      rw [byteLength_cons, hlength]
      omega

theorem isCharBoundary_iff : isCharBoundary text n ↔ ∃ a b, text = a ++ b ∧ byteLength a = n := by
  rw [isCharBoundary, Option.isSome_iff_exists]
  constructor
  · rintro ⟨⟨a, b⟩, h⟩
    exact ⟨a, b, splitBytes_eq_some h⟩
  · rintro ⟨a, b, rfl, rfl⟩
    exact ⟨_, splitBytes_append a b⟩

theorem sliceBytes_append (a b c : List Char) :
    sliceBytes (a ++ (b ++ c)) (byteLength a) (byteLength a + byteLength b) = some b := by
  have hstop := splitBytes_append (a ++ b) c
  rw [byteLength_append, List.append_assoc] at hstop
  simp only [sliceBytes, hstop, Option.bind_eq_bind, Option.bind_some, splitBytes_append]
  rfl

theorem lowerEnd_spec {start middle stop : Nat} (hstart : isCharBoundary text start)
    (hmiddle : isCharBoundary text middle) (hle : start ≤ middle) (hstop : middle ≤ stop) :
    middle ≤ lowerEnd text start stop ∧ lowerEnd text start stop ≤ stop ∧ isCharBoundary text
    (lowerEnd text start stop) := by
  induction stop with
  | zero =>
    refine ⟨hstop, Nat.le_refl 0, ?_⟩
    exact isCharBoundary_iff.mpr ⟨[], text, rfl, rfl⟩
  | succ stop ih =>
    rw [lowerEnd]
    split_ifs with hback
    · rw [Bool.and_eq_true, decide_eq_true_eq, Bool.not_eq_true'] at hback
      have hne : middle ≠ stop + 1 := by
        rintro rfl
        rw [hmiddle] at hback
        cases hback.2
      obtain ⟨h₁, h₂, h₃⟩ := ih (by omega)
      exact ⟨h₁, by omega, h₃⟩
    · refine ⟨hstop, Nat.le_refl _, ?_⟩
      by_cases hpast : start < stop + 1
      · cases hboundary : isCharBoundary text (stop + 1) with
        | true => rfl
        | false => simp [hpast, hboundary] at hback
      · have heq : stop + 1 = start := by omega
        rw [heq]
        exact hstart

/-- A page from a boundary inside the text takes at least one character of the rest. -/
theorem readPage_ok (E : OperationResultEnv) (ref : OperationResultRef) (front : List Char)
    {rest : List Char} (hrest : rest ≠ []) : ∃ chunk tail, rest = chunk ++ tail ∧ chunk ≠ [] ∧
      byteLength chunk ≤ maxOperationResultPageBytes ∧
      readPage E ref (front ++ rest) (byteLength front) = .ok
        { operationResultRef := ref
          startOffsetBytes := byteLength front
          endOffsetBytes := byteLength (front ++ chunk)
          chunkUtf8 := String.ofList chunk
          nextCursor := if tail.isEmpty then none
            else some (cursorForRef E ref (byteLength (front ++ chunk)))
          complete := tail.isEmpty
          historical := true
          currentAuthorityRefreshRequired := true } := by
  obtain ⟨c, rest', rfl⟩ := List.exists_cons_of_ne_nil hrest
  have hsize := Char.utf8Size_le_four c
  have hpos := Char.utf8Size_pos c
  have hlength : byteLength (front ++ c :: rest')
      = byteLength front + (c.utf8Size + byteLength rest') := by
    rw [byteLength_append, byteLength_cons]
  have hstart : isCharBoundary (front ++ c :: rest') (byteLength front) :=
    isCharBoundary_iff.mpr ⟨front, c :: rest', rfl, rfl⟩
  have hmiddle : isCharBoundary (front ++ c :: rest') (byteLength front + c.utf8Size) := by
    refine isCharBoundary_iff.mpr ⟨front ++ [c], rest', by simp, ?_⟩
    rw [byteLength_append, byteLength_cons, byteLength_nil]
    omega
  have hmax : 4 ≤ maxOperationResultPageBytes := by decide
  -- the first character of the rest ends at a boundary within the page
  obtain ⟨hlower, hupper, hboundary⟩ := lowerEnd_spec hstart hmiddle (by omega)
    (show byteLength front + c.utf8Size ≤ min (byteLength (front ++ c :: rest'))
      (byteLength front + maxOperationResultPageBytes) by omega)
  generalize hstop : lowerEnd (front ++ c :: rest') (byteLength front)
    (min (byteLength (front ++ c :: rest')) (byteLength front + maxOperationResultPageBytes))
    = stop at hlower hupper hboundary
  obtain ⟨a, tail, hsplit, rfl⟩ := isCharBoundary_iff.mp hboundary
  -- the page's end is behind its start, so it splits the rest
  obtain ⟨chunk, rfl, hchunk⟩ : ∃ chunk, a = front ++ chunk ∧ c :: rest' = chunk ++ tail := by
    rcases List.append_eq_append_iff.mp hsplit with ⟨chunk, ha, hc⟩ | ⟨gap, hfront, htail⟩
    · exact ⟨chunk, ha, hc⟩
    · have hshort : byteLength front = byteLength a + byteLength gap := by
        rw [hfront, byteLength_append]
      omega
  rw [byteLength_append] at hlower hupper
  have hne : chunk ≠ [] := by
    rintro rfl
    rw [byteLength_nil] at hlower
    omega
  refine ⟨chunk, tail, hchunk, hne, by omega, ?_⟩
  have hinside : (decide (byteLength front < byteLength (front ++ c :: rest'))
      && isCharBoundary (front ++ c :: rest') (byteLength front)) = true := by
    rw [hstart, Bool.and_true, decide_eq_true_eq]
    omega
  have hcomplete : decide (byteLength (front ++ chunk) = byteLength (front ++ c :: rest'))
      = tail.isEmpty := by
    rw [hchunk, byteLength_append, byteLength_append, byteLength_append]
    cases tail with
    | nil => simp
    | cons d tail =>
      have htail := byteLength_pos (List.cons_ne_nil d tail)
      simp only [List.isEmpty_cons, decide_eq_false_iff_not]
      omega
  have hslice : sliceBytes (front ++ c :: rest') (byteLength front) (byteLength (front ++ chunk))
      = some chunk := by
    rw [hchunk, byteLength_append]
    exact sliceBytes_append front chunk tail
  simp only [readPage, hinside, ensure, if_true, hstop, hslice, okOr, hcomplete]
  rfl

/- Cursors. -/

theorem hex_notMem_dot (h : isCanonicalSha256Hex digest) : '.' ∉ digest.toList := by
  intro hdot
  rw [isCanonicalSha256Hex, Bool.and_eq_true, List.all_eq_true] at h
  exact absurd (h.2 _ hdot) (by decide)

theorem dot_notMem_toString (n : Nat) : '.' ∉ (toString n).toList := by
  intro hdot
  exact absurd (isDigit_of_mem_toString hdot) (by decide)

theorem parseCursor_print (hoffset : offset < 256 ^ 8) (hdigest : isCanonicalSha256Hex digest) :
    parseCursor (toString offset ++ ("." ++ digest)) = some ⟨offset, digest⟩ := by
  have hparts : (toString offset ++ ("." ++ digest)).toList.splitOn '.'
      = [(toString offset).toList, digest.toList] := by
    have htext : (toString offset ++ ("." ++ digest)).toList
        = (toString offset).toList ++ '.' :: digest.toList := by simp
    rw [htext, List.splitOn_append_cons_self_of_not_mem (dot_notMem_toString offset),
      List.splitOn_eq_singleton (hex_notMem_dot hdigest)]
  have hdigits : (toString offset).toList.all Char.isDigit :=
    List.all_eq_true.mpr fun c hc => isDigit_of_mem_toString hc
  have hempty : (toString offset).toList.isEmpty = false := by
    rw [toString_nat, List.isEmpty_eq_false_iff]
    exact Nat.toDigits_ne_nil
  have hzero : (decide (1 < (toString offset).toList.length)
      && decide ((toString offset).toList.head? = some '0')) = false := by
    rw [Bool.and_eq_false_iff, decide_eq_false_iff_not, decide_eq_false_iff_not, not_lt]
    exact toString_canonical offset
  have hvalue : Nat.ofDigitChars 10 (toString offset).toList 0 = offset := by
    rw [toString_nat, Nat.ofDigitChars_ten_toDigits]
  rw [parseCursor, hparts]
  simp only [hempty, hdigits, hzero, String.ofList_toList, hdigest, hvalue, Bool.not_true,
    Bool.or_false, Bool.false_eq_true, if_false, if_pos hoffset]

theorem parseCursor_eq_some {parsed : ParsedCursor} (h : parseCursor cursor = some parsed) :
    cursor = toString parsed.offset ++ ("." ++ parsed.digest) ∧ parsed.offset < 256 ^ 8 := by
  unfold parseCursor at h
  split at h
  · rename_i offset digest hparts
    split_ifs at h with hbad hfits
    obtain rfl := Option.some.inj h
    simp only [Bool.or_eq_true, Bool.not_eq_true', Bool.and_eq_true, decide_eq_true_eq, not_or,
      List.isEmpty_iff, Bool.not_eq_false, List.all_eq_true] at hbad
    obtain ⟨⟨⟨hempty, hdigits⟩, hzero⟩, _⟩ := hbad
    have hcanonical : offset.length ≤ 1 ∨ offset.head? ≠ some '0' := by
      by_cases hlong : 1 < offset.length
      · exact .inr fun hhead => hzero ⟨hlong, hhead⟩
      · exact .inl (not_lt.mp hlong)
    have hjoined : ['.'].intercalate [offset, digest] = cursor.toList := by
      rw [← hparts, List.intercalate_splitOn]
    refine ⟨?_, hfits⟩
    rw [← String.toList_inj, ← hjoined, String.toList_append,
      toString_ofDigitChars hdigits hempty hcanonical]
    simp [List.intercalate, List.intersperse]
  · cases h

theorem utf8Bytes_injective : Function.Injective utf8Bytes := by
  intro a b h
  have hbytes : (String.ofList a.toList).toByteArray = (String.ofList b.toList).toByteArray := by
    rw [String.toByteArray_ofList, String.toByteArray_ofList]
    exact congrArg List.toByteArray h
  simpa using String.toByteArray_inj.mp hbytes

theorem cursorComponent_cancel {a b : String} {s t : List UInt8}
    (ha : (utf8Bytes a).length < 256 ^ 8) (hb : (utf8Bytes b).length < 256 ^ 8)
    (h : cursorComponent a ++ s = cursorComponent b ++ t) : a = b ∧ s = t := by
  simp only [cursorComponent, List.append_assoc] at h
  obtain ⟨hlength, hrest⟩ := beBytes_cancel ha hb h
  obtain ⟨htext, htail⟩ := List.append_inj hrest hlength
  exact ⟨utf8Bytes_injective htext, htail⟩

theorem MethodName.asStr_fits (method : MethodName) :
    (utf8Bytes method.asStr).length < 256 ^ 8 := by
  cases method <;> decide

theorem MethodName.asStr_injective : Function.Injective MethodName.asStr := by
  intro a b h
  have hparsed := congrArg MethodName.ofStr h
  rw [MethodName.ofStr_asStr, MethodName.ofStr_asStr] at hparsed
  exact Option.some.inj hparsed

/-- References and offsets can be read off the text a cursor's digest is computed of. -/
theorem cursorPreimage_injective {ref ref' : OperationResultRef} {offset offset' : Nat}
    (hoffset : offset < 256 ^ 8) (hoffset' : offset' < 256 ^ 8)
    (h : cursorPreimage ref offset = cursorPreimage ref' offset') :
      ref = ref' ∧ offset = offset' := by
  have h := List.append_cancel_left h
  obtain ⟨hproject, h⟩ := cursorComponent_cancel ref.projectFits ref'.projectFits h
  obtain ⟨hmethod, h⟩ := cursorComponent_cancel (MethodName.asStr_fits _)
    (MethodName.asStr_fits _) h
  obtain ⟨hkey, h⟩ := cursorComponent_cancel ref.keyFits ref'.keyFits h
  obtain ⟨hversion, h⟩ := beBytes_cancel ref.versionFits ref'.versionFits h
  obtain ⟨hsha, h⟩ := cursorComponent_cancel ref.digestFits ref'.digestFits h
  obtain ⟨hsize, h⟩ := beBytes_cancel ref.sizeFits ref'.sizeFits h
  have hmethod := MethodName.asStr_injective hmethod
  refine ⟨?_, beBytes_injective hoffset hoffset' h⟩
  cases ref
  cases ref'
  simp_all

/- Following cursors. -/

/-- The pages a caller gets that asks on with each next cursor; `read i c` is the answer to the
`i`-th request. -/
inductive Follows (read : Nat → Option String → Except OperationResultError OperationResultPage) :
    Nat → Option String → List OperationResultPage → Prop
  | last {i cursor page} : read i cursor = .ok page → page.nextCursor = none →
      Follows read i cursor [page]
  | more {i cursor page next pages} : read i cursor = .ok page → page.nextCursor = some next →
      Follows read (i + 1) (some next) pages → Follows read i cursor (page :: pages)

theorem Follows.unique {read : Nat → Option String →
    Except OperationResultError OperationResultPage}
    {i : Nat} {cursor : Option String} {pages pages' : List OperationResultPage}
    (h : Follows read i cursor pages) (h' : Follows read i cursor pages') : pages' = pages := by
  induction h generalizing pages' with
  | last hread hnone =>
    cases h' with
    | last hread' _ => rw [Except.ok.inj (hread'.symm.trans hread)]
    | more hread' hsome _ =>
      rw [Except.ok.inj (hread'.symm.trans hread), hnone] at hsome
      cases hsome
  | more hread hsome _ ih =>
    cases h' with
    | last hread' hnone =>
      rw [Except.ok.inj (hread'.symm.trans hread), hsome] at hnone
      cases hnone
    | more hread' hsome' hrest =>
      obtain rfl := Except.ok.inj (hread'.symm.trans hread)
      obtain rfl := Option.some.inj (hsome'.symm.trans hsome)
      rw [ih hrest]

/-- The pages cut a text, whose first character is at byte `start`, into pieces. -/
structure PagesOf (ref : OperationResultRef) (start : Nat) (text : List Char)
    (pages : List OperationResultPage) : Prop where
  named : ∀ page ∈ pages, page.operationResultRef = ref
  bounded : ∀ page ∈ pages, page.chunkUtf8 ≠ "" ∧
    (utf8Bytes page.chunkUtf8).length ≤ maxOperationResultPageBytes
  sized : ∀ page ∈ pages,
    page.endOffsetBytes = page.startOffsetBytes + (utf8Bytes page.chunkUtf8).length
  starts : pages.head?.map (·.startOffsetBytes) = some start
  contiguous : pages.IsChain fun page next => next.startOffsetBytes = page.endOffsetBytes
  joined : pages.flatMap (fun page => utf8Bytes page.chunkUtf8) = text.flatMap String.utf8EncodeChar
  completed : pages.map (·.complete) = List.replicate (pages.length - 1) false ++ [true]

theorem utf8Bytes_ofList (text : List Char) :
    utf8Bytes (String.ofList text) = text.flatMap String.utf8EncodeChar := by
  rw [utf8Bytes, String.toList_ofList]

/-- The page holds one nonempty piece, which is at byte `start`. -/
structure OperationResultPage.Holds (page : OperationResultPage) (ref : OperationResultRef)
    (start : Nat) (chunk : List Char) : Prop where
  named : page.operationResultRef = ref
  starts : page.startOffsetBytes = start
  text : page.chunkUtf8 = String.ofList chunk
  nonempty : chunk ≠ []
  bound : byteLength chunk ≤ maxOperationResultPageBytes
  ends : page.endOffsetBytes = start + byteLength chunk

section
variable {ref : OperationResultRef} {page : OperationResultPage} {start : Nat} {chunk : List Char}

section
variable (h : page.Holds ref start chunk)
include h

theorem OperationResultPage.Holds.bytes :
    utf8Bytes page.chunkUtf8 = chunk.flatMap String.utf8EncodeChar := by
  rw [h.text, utf8Bytes_ofList]

theorem OperationResultPage.Holds.bounded :
    page.chunkUtf8 ≠ "" ∧ (utf8Bytes page.chunkUtf8).length ≤ maxOperationResultPageBytes := by
  rw [h.bytes]
  refine ⟨?_, h.bound⟩
  rw [h.text, Ne, String.ofList_eq_empty_iff]
  exact h.nonempty

theorem OperationResultPage.Holds.sized :
    page.endOffsetBytes = page.startOffsetBytes + (utf8Bytes page.chunkUtf8).length := by
  rw [h.bytes, h.ends, h.starts, byteLength]

theorem PagesOf.single (hcomplete : page.complete) : PagesOf ref start chunk [page] where
  named := List.forall_mem_singleton.mpr h.named
  bounded := List.forall_mem_singleton.mpr h.bounded
  sized := List.forall_mem_singleton.mpr h.sized
  starts := congrArg some h.starts
  contiguous := List.IsChain.singleton _
  joined := by rw [List.flatMap_singleton, h.bytes]
  completed := by rw [List.map_singleton, hcomplete]; rfl

end

theorem PagesOf.cons {tail : List Char} {pages : List OperationResultPage}
    (h : page.Holds ref start chunk) (hcomplete : page.complete = false)
    (hpages : PagesOf ref (start + byteLength chunk) tail pages) :
    PagesOf ref start (chunk ++ tail) (page :: pages) where
  named := List.forall_mem_cons.mpr ⟨h.named, hpages.named⟩
  bounded := List.forall_mem_cons.mpr ⟨h.bounded, hpages.bounded⟩
  sized := List.forall_mem_cons.mpr ⟨h.sized, hpages.sized⟩
  starts := congrArg some h.starts
  contiguous := by
    have hstarts := hpages.starts
    cases pages with
    | nil => cases hstarts
    | cons next pages =>
      refine List.isChain_cons_cons.mpr ⟨?_, hpages.contiguous⟩
      rw [h.ends]
      exact Option.some.inj hstarts
  joined := by rw [List.flatMap_cons, hpages.joined, h.bytes, List.flatMap_append]
  completed := by
    have hcompleted := hpages.completed
    cases pages with
    | nil => simp at hcompleted
    | cons next pages =>
      rw [List.map_cons, hcompleted, hcomplete]
      rfl

end

/-- Any reader that answers a cursor with the page at its offset is followed to the end of the text:
by induction on the text that is left, since every page takes some of it. -/
theorem follows_readPage (E : OperationResultEnv) (ref : OperationResultRef)
    (read : Nat → Option String → Except OperationResultError OperationResultPage)
    (hread : ∀ i offset, offset < byteLength text →
      read i (some (cursorForRef E ref offset)) = readPage E ref text offset) :
    ∀ n i cursor (front rest : List Char), rest.length = n → rest ≠ [] → text = front ++ rest →
      read i cursor = readPage E ref text (byteLength front) →
      ∃ pages, Follows read i cursor pages ∧ PagesOf ref (byteLength front) rest pages := by
  intro n
  induction n using Nat.strongRecOn with
  | ind n ih =>
    intro i cursor front rest hlength hrest htext hstart
    obtain ⟨chunk, tail, rfl, hne, hbound, hpage⟩ := readPage_ok E ref front hrest
    rw [htext, hpage] at hstart
    have hend : byteLength (front ++ chunk) = byteLength front + byteLength chunk :=
      byteLength_append ..
    cases tail with
    | nil =>
      refine ⟨_, .last hstart rfl, ?_⟩
      rw [List.append_nil]
      exact PagesOf.single ⟨rfl, rfl, rfl, hne, hbound, hend⟩ rfl
    | cons c tail =>
      have hshorter : (c :: tail).length < n := by
        have := List.length_pos_iff.mpr hne
        rw [← hlength, List.length_append]
        omega
      have htext' : text = (front ++ chunk) ++ c :: tail := by rw [htext, List.append_assoc]
      have hoffset : byteLength (front ++ chunk) < byteLength text := by
        have := byteLength_pos (List.cons_ne_nil c tail)
        rw [htext', byteLength_append (front ++ chunk)]
        omega
      obtain ⟨pages, hfollows, hpages⟩ := ih _ hshorter (i + 1)
        (some (cursorForRef E ref (byteLength (front ++ chunk)))) (front ++ chunk) (c :: tail) rfl
        (List.cons_ne_nil c tail) htext' (hread (i + 1) _ hoffset)
      rw [hend] at hpages
      exact ⟨_, .more hstart rfl hfollows,
        PagesOf.cons ⟨rfl, rfl, rfl, hne, hbound, hend⟩ rfl hpages⟩

/- The stored row stays. -/

section
variable {ι A : Type} [DecidableEq ι] {stored : StoredOperationResult} {method : MethodName}

theorem lookupToolInvocation_append {X : External} {db db' : ProjectDb A}
    {rows : List ToolInvocationRow} (happend : db'.toolInvocations = db.toolInvocations ++ rows)
    (h : lookupToolInvocation X toolName key db = .ok (some record)) :
    lookupToolInvocation X toolName key db' = .ok (some record) := by
  unfold lookupToolInvocation at h ⊢
  cases hfind : db.toolInvocations.find? (ToolInvocationRow.answers toolName key) with
  | none =>
    rw [hfind] at h
    cases h
  | some row =>
    rw [hfind] at h
    rw [happend, List.find?_append, hfind]
    exact h

theorem storeStep_lookupToolInvocation (X : External) (R : AggregateReaders A) (s : StoreSystem ι A)
    (op : StoreOp ι A) (h : lookupToolInvocation X toolName key s.db = .ok (some record)) :
    lookupToolInvocation X toolName key (storeStep X R s op).2.db = .ok (some record) := by
  rcases storeStep_cases X R s op with ⟨_, _, _, _, _, _, _, _, heffect⟩ | ⟨_, _, _, _, _,
    hdb⟩ | ⟨_, hdb⟩
  · exact lookupToolInvocation_append heffect.recorded h
  · rw [hdb]
    exact h
  · rw [hdb]
    exact h

theorem operationResult_eq_some {E : OperationResultEnv} {X : External} {db : ProjectDb A} :
    db.operationResult E X method key = .ok (some stored) ↔
      ∃ record, lookupToolInvocation X method.asStr key db = .ok (some record) ∧
        storedOperationResult E record = .ok stored := by
  unfold ProjectDb.operationResult
  cases hlookup : lookupToolInvocation X method.asStr key db with
  | error e => simp [bind, Except.bind]
  | ok found =>
    cases found with
    | none => simp [bind, Except.bind, pure, Except.pure]
    | some record =>
      cases hstored : storedOperationResult E record <;>
        simp [bind, Except.bind, pure, Except.pure, hstored]

theorem storeRun_operationResult (E : OperationResultEnv) (X : External) (R : AggregateReaders A)
    (s : StoreSystem ι A)
    (ops : List (StoreOp ι A)) (h : s.db.operationResult E X method key = .ok (some stored)) :
    (Transition.run (storeStep X R) s ops).db.operationResult E X method key = .ok
      (some stored) := by
  obtain ⟨record, hlookup, hstored⟩ := operationResult_eq_some.mp h
  refine operationResult_eq_some.mpr ⟨record, ?_, hstored⟩
  exact Transition.run_invariant (fun s op => storeStep_lookupToolInvocation X R s op) s ops hlookup

end

/- The method. -/

/-- What is assumed of the two functions that stay open: a digest has the canonical form, and the
empty text is no response. -/
structure OperationResultEnv.Lawful (E : OperationResultEnv) : Prop where
  hex : ∀ bytes, isCanonicalSha256Hex (E.sha256Hex bytes)
  empty : ∀ method version, E.storedPublicResponseIsCurrent method "" version = false

def pageRequest (ref : OperationResultRef) (cursor : Option String) : GetOperationResultRequest :=
  ⟨false, none, none, ref.projectId, ref, cursor⟩

/-- The stored result the reference names is one its actor may read. -/
structure OpenTo (E : OperationResultEnv) (actor : ActorSource) (ref : OperationResultRef)
    (stored : StoredOperationResult) : Prop where
  category : stored.operationCategory = .agentWorkflow
  actor : stored.actorSource = actor
  reference : storedMatchesRef stored ref
  current : E.storedPublicResponseIsCurrent ref.sourceMethod stored.responseJson
    stored.committedStateVersion

section
variable {A : Type} {E : OperationResultEnv} {X : External} {db : ProjectDb A}
  {actor : ActorSource} {ref : OperationResultRef} {stored : StoredOperationResult}

theorem openOperationResult_ok
    (hstored : db.operationResult E X ref.sourceMethod ref.sourceIdempotencyKey = .ok (some stored))
    (h : OpenTo E actor ref stored) :
    openOperationResult E X db actor ref.projectId ref = .ok stored := by
  simp only [openOperationResult, steps_ok, mapError_eq_ok, decide_eq_true_eq]
  exact ⟨trivial, _, hstored, _, rfl, h.category, h.actor, h.reference, h.current, rfl⟩

theorem storedOperationResult_ok (h : storedOperationResult E record = .ok stored) :
    stored.responseSizeBytes = byteLength stored.responseJson.toList ∧
      byteLength stored.responseJson.toList < 256 ^ 8 ∧
      stored.responseSha256 = "sha256:" ++ E.sha256Hex (utf8Bytes stored.responseJson) := by
  simp only [storedOperationResult, steps_ok, decide_eq_true_eq] at h
  obtain ⟨hfits, rfl⟩ := h
  exact ⟨rfl, hfits, rfl⟩

theorem OpenTo.ref_eq (h : OpenTo E actor ref stored) :
    ref.responseSha256 = stored.responseSha256 ∧
      ref.responseSizeBytes = stored.responseSizeBytes := by
  have href := h.reference
  simp only [storedMatchesRef, Bool.and_eq_true, decide_eq_true_eq] at href
  exact ⟨href.1.2.symm, href.2.symm⟩

section
variable (hE : E.Lawful) (h : OpenTo E actor ref stored)
include hE h

theorem OpenTo.response_ne_nil : stored.responseJson.toList ≠ [] := by
  intro hempty
  have hcurrent := h.current
  rw [String.toList_eq_nil_iff.mp hempty, hE.empty] at hcurrent
  cases hcurrent

theorem validate_pageRequest (hrecord : storedOperationResult E record = .ok stored)
    (cursor : Option String) (parsed : Option ParsedCursor)
    (hcursor : cursor.map parseCursor = parsed.map some) :
    (pageRequest ref cursor).validate = .ok parsed := by
  obtain ⟨hsize, _, hsha⟩ := storedOperationResult_ok hrecord
  have hpos := byteLength_pos (h.response_ne_nil hE)
  have hdigest : isCanonicalSha256Digest ref.responseSha256 := by
    rw [h.ref_eq.1, hsha, isCanonicalSha256Digest, Text.strip_append, Option.any_some]
    exact hE.hex _
  have hnonzero : decide (ref.responseSizeBytes ≠ 0) = true := by
    rw [h.ref_eq.2, hsize, decide_eq_true_eq]
    omega
  cases cursor with
  | none =>
    cases parsed with
    | none =>
      simp only [GetOperationResultRequest.validate, pageRequest, steps_ok]
      exact ⟨rfl, rfl, rfl, hdigest, hnonzero, trivial⟩
    | some p => cases hcursor
  | some c =>
    cases parsed with
    | none => cases hcursor
    | some p =>
      have hparsed : parseCursor c = some p := Option.some.inj hcursor
      simp only [GetOperationResultRequest.validate, pageRequest, steps_ok]
      exact ⟨rfl, rfl, rfl, hdigest, hnonzero, p, hparsed, rfl⟩

section
variable
  (hstored : db.operationResult E X ref.sourceMethod ref.sourceIdempotencyKey = .ok (some stored))
include hstored

theorem getOperationResult_first : getOperationResult E X db (.ok actor) (pageRequest ref none)
      = readPage E ref stored.responseJson.toList 0 := by
  obtain ⟨record, _, hrecord⟩ := operationResult_eq_some.mp hstored
  have hvalid := validate_pageRequest hE h hrecord none none rfl
  rw [getOperationResult, hvalid]
  change openOperationResult E X db actor ref.projectId ref >>= _ = _
  rw [openOperationResult_ok hstored h]
  rfl

theorem getOperationResult_next (hoffset : offset < byteLength stored.responseJson.toList) :
    getOperationResult E X db (.ok actor) (pageRequest ref (some (cursorForRef E ref offset)))
      = readPage E ref stored.responseJson.toList offset := by
  obtain ⟨record, _, hrecord⟩ := operationResult_eq_some.mp hstored
  have hfits := (storedOperationResult_ok hrecord).2.1
  have hparsed : parseCursor (cursorForRef E ref offset) = some ⟨offset,
    cursorDigest E ref offset⟩ :=
    parseCursor_print (hoffset.trans hfits) (hE.hex _)
  have hvalid := validate_pageRequest hE h hrecord (some (cursorForRef E ref offset))
    (some ⟨offset, cursorDigest E ref offset⟩) (congrArg some hparsed)
  rw [getOperationResult, hvalid]
  change openOperationResult E X db actor ref.projectId ref >>= _ = _
  rw [openOperationResult_ok hstored h]
  simp only [startOffset, cursorMatchesRef, ensure, pageRequest, bind, Except.bind, decide_true]
  rfl

end

end

theorem getOperationResult_cursor {invocation : Except OperationResultError ActorSource}
    {request : GetOperationResultRequest} {page : OperationResultPage}
    (h : getOperationResult E X db invocation request = .ok page)
      (hcursor : request.cursor = some cursor) :
    page.startOffsetBytes < 256 ^ 8 ∧
      cursor = cursorForRef E request.operationResultRef page.startOffsetBytes := by
  simp only [getOperationResult, bind_eq_ok] at h
  obtain ⟨parsed, hvalid, _, _, opened, _, start, hstart, hpage⟩ := h
  simp only [GetOperationResultRequest.validate, hcursor, steps_ok] at hvalid
  obtain ⟨_, _, _, _, _, p, hparsed, rfl⟩ := hvalid
  simp only [startOffset, steps_ok, cursorMatchesRef, decide_eq_true_eq] at hstart
  obtain ⟨hdigest, rfl⟩ := hstart
  simp only [readPage, steps_ok] at hpage
  obtain ⟨_, _, _, rfl⟩ := hpage
  obtain ⟨hprint, hfits⟩ := parseCursor_eq_some hparsed
  exact ⟨hfits, by rw [hprint, hdigest]; rfl⟩

end

/-- A stored response is read completely by following its cursors, whatever is committed between two
requests; and a cursor is answered only for the reference and the offset it was made for, unless the
digests of two different pre-images collide. -/
theorem operation_result_paged {ι A : Type} [DecidableEq ι] (E : OperationResultEnv) (X : External)
    (R : AggregateReaders A) :
    (∀ (states : Nat → StoreSystem ι A) (gaps : Nat → List (StoreOp ι A)) (actor : ActorSource)
        (ref : OperationResultRef) (stored : StoredOperationResult), E.Lawful →
      (∀ i, states (i + 1) = Transition.run (storeStep X R) (states i) (gaps i)) →
      (states 0).db.operationResult E X ref.sourceMethod ref.sourceIdempotencyKey
        = .ok (some stored) →
      OpenTo E actor ref stored →
      ∃ pages, (∀ other, Follows (fun i cursor => getOperationResult E X (states i).db (.ok actor)
          (pageRequest ref cursor)) 0 none other ↔ other = pages) ∧
        PagesOf ref 0 stored.responseJson.toList pages) ∧
    ∀ (db : ProjectDb A) (invocation : Except OperationResultError ActorSource)
        (request : GetOperationResultRequest) (page : OperationResultPage) (cursor : String),
      request.cursor = some cursor → getOperationResult E X db invocation request = .ok page →
      cursor = cursorForRef E request.operationResultRef page.startOffsetBytes ∧
        ∀ ref offset, offset < 256 ^ 8 → cursor = cursorForRef E ref offset →
          (E.sha256Hex (cursorPreimage ref offset) = E.sha256Hex
              (cursorPreimage request.operationResultRef page.startOffsetBytes) →
            cursorPreimage ref offset
              = cursorPreimage request.operationResultRef page.startOffsetBytes) →
          ref = request.operationResultRef ∧ offset = page.startOffsetBytes := by
  constructor
  · intro states gaps actor ref stored hE hgaps hstored hreadable
    have hstays : ∀ i, (states i).db.operationResult E X ref.sourceMethod ref.sourceIdempotencyKey
        = .ok (some stored) := by
      intro i
      induction i with
      | zero => exact hstored
      | succ i ih =>
        rw [hgaps i]
        exact storeRun_operationResult E X R (states i) (gaps i) ih
    obtain ⟨pages, hfollows, hpages⟩ := follows_readPage E ref
      (fun i cursor => getOperationResult E X (states i).db (.ok actor) (pageRequest ref cursor))
      (fun i offset hoffset => getOperationResult_next hE hreadable (hstays i) hoffset)
      _ 0 none [] stored.responseJson.toList rfl (hreadable.response_ne_nil hE) rfl
      (getOperationResult_first hE hreadable (hstays 0))
    refine ⟨pages, fun other => ⟨hfollows.unique, ?_⟩, hpages⟩
    rintro rfl
    exact hfollows
  · intro db invocation request page cursor hcursor hpage
    obtain ⟨hfits, hprint⟩ := getOperationResult_cursor hpage hcursor
    refine ⟨hprint, fun ref offset hoffset hother hcollision => ?_⟩
    have htext : toString offset ++ ("." ++ cursorDigest E ref offset)
        = toString page.startOffsetBytes
          ++ ("." ++ cursorDigest E request.operationResultRef page.startOffsetBytes) :=
      hother.symm.trans hprint
    have hchars := congrArg String.toList htext
    simp only [String.toList_append] at hchars
    obtain ⟨_, hrest⟩ := append_cons_cancel (dot_notMem_toString offset)
      (dot_notMem_toString page.startOffsetBytes) hchars
    exact cursorPreimage_injective hoffset hfits (hcollision (String.toList_inj.mp hrest))

/- A response of six characters and seven bytes, committed by an agent: the object that has `null`
under the key `é`. -/

def constantDigests : OperationResultEnv where
  sha256Hex _ := String.ofList (List.replicate 64 '0')
  storedPublicResponseIsCurrent _ response _ := response ≠ ""

def agentInvocationRow : ToolInvocationRow :=
  ⟨"project", "volicord.intake", "r", "h", 0, 1, "agent_connection:agent", "agent_workflow", none,
    none, "o,é\"n)", "x"⟩

def agentProject : StoreSystem Unit Unit :=
  { emptyProject with db := { emptyProject.db with toolInvocations := [agentInvocationRow] } }

def agentResultRef : OperationResultRef where
  projectId := "project"
  sourceMethod := .intake
  sourceIdempotencyKey := "r"
  committedStateVersion := 1
  responseSha256 := "sha256:" ++ String.ofList (List.replicate 64 '0')
  responseSizeBytes := 7
  versionFits := by decide
  sizeFits := by decide
  projectFits := by decide
  keyFits := by decide
  digestFits := by decide +kernel

def agentStoredResult : StoredOperationResult :=
  ⟨"project", .intake, "r", 1, .agentConnection "agent", .agentWorkflow,
    "sha256:" ++ String.ofList (List.replicate 64 '0'), 7, "o,é\"n)"⟩

theorem constantDigests_lawful : constantDigests.Lawful where
  hex _ := show isCanonicalSha256Hex (String.ofList (List.replicate 64 '0'))
    = true by decide +kernel
  empty _ _ := rfl

/-- The reader of that response commits something else after each page, and the cursor behind the
key's letter is answered. -/
theorem operation_result_paged_sample :
    (∃ pages, (∀ other, Follows (fun i cursor => getOperationResult constantDigests plainExternal
        (Transition.run (storeStep plainExternal noAggregates) agentProject
          (List.replicate i (.commit () intakeCall))).db
        (.ok (.agentConnection "agent")) (pageRequest agentResultRef cursor)) 0 none other
          ↔ other = pages) ∧
      PagesOf agentResultRef 0 "o,é\"n)".toList pages) ∧
    ∃ page, getOperationResult constantDigests plainExternal agentProject.db
        (.ok (.agentConnection "agent"))
        (pageRequest agentResultRef (some (cursorForRef constantDigests agentResultRef 4)))
          = .ok page ∧
      page.chunkUtf8 = "\"n)" ∧ page.complete = true ∧
      cursorForRef constantDigests agentResultRef 4
        = cursorForRef constantDigests agentResultRef page.startOffsetBytes := by
  constructor
  · refine (operation_result_paged constantDigests plainExternal noAggregates).1
      (fun i => Transition.run (storeStep plainExternal noAggregates) agentProject
        (List.replicate i (.commit () intakeCall)))
      (fun _ => [.commit () intakeCall]) (.agentConnection "agent") agentResultRef agentStoredResult
      constantDigests_lawful (fun i => ?_) (by decide +kernel) ⟨rfl, rfl, by decide +kernel, rfl⟩
    rw [List.replicate_succ', Transition.run_append]
  · obtain ⟨page, hpage, hchunk, hcomplete⟩ : ∃ page,
        getOperationResult constantDigests plainExternal agentProject.db
          (.ok (.agentConnection "agent"))
          (pageRequest agentResultRef (some (cursorForRef constantDigests agentResultRef 4)))
          = .ok page ∧ page.chunkUtf8 = "\"n)" ∧ page.complete := by
      exact ⟨⟨agentResultRef, 4, 7, "\"n)", none, true, true, true⟩, by decide +kernel, rfl, rfl⟩
    exact ⟨page, hpage, hchunk, hcomplete,
      ((operation_result_paged (ι := Unit) constantDigests plainExternal noAggregates).2 _ _ _ page
        _ rfl hpage).1⟩

end Volicord
