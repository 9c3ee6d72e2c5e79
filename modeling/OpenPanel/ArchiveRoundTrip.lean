import OpenPanel.SiteArchive

/-! What extraction makes of an archive. Whatever the bytes and the failures, it
makes files only below the staging directory. Of an archive the writer made it
brings back every file exactly if each path is UTF-8 text and path and size are
within the limits the reader sets and the writer does not. -/
namespace OpenPanel.Backups
open Fallible FileTree Framing

section Text

theorem nameLegal (n : Name) : n.bytes ≠ [] ∧ 0 ∉ n.bytes ∧ 47 ∉ n.bytes ∧ n.bytes ≠ [46] ∧ n.bytes ≠ [46,46] := by
  have legal := n.legal
  simpa [legalName,and_assoc] using legal

variable {p : Path}

theorem splitText (named : p ≠ []) : (pathText p).splitOn 47 = p.map Name.bytes := by
  refine List.splitOn_intercalate 47 ?_ (by simpa using named)
  intro part mem
  obtain ⟨n,_,rfl⟩ := List.mem_map.mp mem
  exact (nameLegal n).2.2.1

theorem partsLegal (mem : part ∈ p.map Name.bytes) : part ≠ [] ∧ part ≠ [46] ∧ part ≠ [46,46] := by
  obtain ⟨n,_,rfl⟩ := List.mem_map.mp mem
  exact ⟨(nameLegal n).1,(nameLegal n).2.2.2⟩

theorem checkText (named : p ≠ []) : RestorePath.check (pathText p) = .ok () := by
  have split := splitText named
  have relative : ∀ rest, pathText p ≠ 47::rest := by
    intro rest absolute
    have first : [] ∈ (pathText p).splitOn 47 := by
      rw [absolute,List.splitOn_cons_eq_if_modifyHead]
      simp
    rw [split] at first
    exact (partsLegal first).1 rfl
  have filled : pathText p ≠ [] := by
    intro empty
    have first : [] ∈ (pathText p).splitOn 47 := by simp [empty]
    rw [split] at first
    exact (partsLegal first).1 rfl
  have inside : [46,46] ∉ (pathText p).splitOn 47 := by
    rw [split]
    exact fun mem => (partsLegal mem).2.2 rfl
  have head : (pathText p).head? ≠ some 47 := by
    cases text : pathText p with
    | nil => simp
    | cons b rest =>
      intro same
      cases same
      exact relative rest text
  simp [RestorePath.check,filled,head,inside]

theorem namesMap (p : Path) : (p.map Name.bytes).mapM Name.ofBytes = some p := by
  induction p with
  | nil => rfl
  | cons n rest ih =>
    have here : Name.ofBytes n.bytes = some n := by simp [Name.ofBytes,n.legal]
    simp [here,ih]

end Text

def Portable (f : Path × Bytes) : Prop :=
  isUtf8 (pathText f.1) = true ∧ (pathText f.1).length ≤ maxPathLen ∧ f.2.length ≤ maxFileSize

instance (f) : Decidable (Portable f) :=
  inferInstanceAs (Decidable (isUtf8 (pathText f.1) = true ∧ (pathText f.1).length ≤ maxPathLen ∧
    f.2.length ≤ maxFileSize))

theorem nextFrame (named : f.1 ≠ []) (portable : Portable f) (rest) :
    nextEntry (frame (pathText f.1) f.2 ++ rest) = .ok (some (pathText f.1,f.2.length,f.2 ++ rest)) := by
  obtain ⟨utf8,short,small⟩ := portable
  have lengthBack : decode (encode 4 (pathText f.1).length) = (pathText f.1).length :=
    decodeEncode (lt_of_le_of_lt short (by decide))
  have sizeBack : decode (encode 8 f.2.length) = f.2.length :=
    decodeEncode (lt_of_le_of_lt small (by decide))
  have filled : (pathText f.1).length ≠ 0 := by
    intro empty
    have checked := checkText named
    simp [RestorePath.check,List.length_eq_zero_iff.mp empty] at checked
  have first := readExactAppend (encode 4 (pathText f.1).length)
    (encode 8 f.2.length ++ (pathText f.1 ++ (f.2 ++ rest)))
  have second := readExactAppend (encode 8 f.2.length) (pathText f.1 ++ (f.2 ++ rest))
  rw [encodeLength] at first second
  have framed : ¬ ((pathText f.1).length = 0 ∨ (pathText f.1).length > maxPathLen) := by omega
  have within : ¬ f.2.length > maxFileSize := by omega
  simp only [nextEntry,frame,List.append_assoc,first,second,lengthBack,sizeBack,readExactAppend,
    checkText named,utf8,if_neg framed,if_neg within]
  rfl

section Confinement

variable {disk : Tree}

theorem ioEnds {prog} (ends : Ends prog disk post (fun e => failed (.internal e))) : Ends (io prog) disk post failed := Ends.within ends

omit disk in
theorem namesLength {parts : List Bytes} (made : parts.mapM Name.ofBytes = some names) : names.length = parts.length := by
  induction parts generalizing names with
  | nil =>
    cases made
    rfl
  | cons part rest ih =>
    rw [List.mapM_cons] at made
    obtain ⟨first,_,made⟩ := Option.bind_eq_some_iff.mp made
    obtain ⟨others,tail,made⟩ := Option.bind_eq_some_iff.mp made
    cases made
    simp [ih tail]

theorem namesThen (stopped : failed (.internal nulByte) disk)
    (rest : ∀ names, names.length = parts.length → Ends (next names) disk post failed) :
    Ends (namesOf parts >>= next) disk post failed := by
  refine .asks ?_ ?_
  · intro names found
    split at found <;> cases found
    rename_i made
    exact rest names (namesLength made)
  · intro e missed
    split at missed <;> cases missed
    exact stopped

theorem dirsEnd {path} : Ends (io (createDirAll fault [] path)) disk (fun _ next => Grown path disk next ∧ Standing next path)
    (fun e next => Grown path disk next ∧ e.refusal = false) := by
  refine ioEnds (.weaken (createDirAllEnds ?_) (fun _ _ made => made) (fun _ _ stopped => ⟨stopped.1,rfl⟩))
  exact fun q on other => absurd (List.prefix_nil.mp on) other

theorem openConfined {text} (standing : Standing disk staging) : Ends (openEntry fault staging text) disk
      (fun target next => (staging <+: target ∧ staging.length < target.length) ∧
        Confined staging disk next ∧ Standing next staging)
      (fun e next => (Confined staging disk next ∧ Standing next staging) ∧ e.refusal = false) := by
  have nothing : Confined staging disk disk := .refl staging disk
  refine namesThen ⟨⟨nothing,standing⟩,rfl⟩ (fun above _ => ?_)
  let kept := (text.splitOn 47).filter (fun part => part ≠ [] && part ≠ [46])
  have grownConfined : ∀ mid : Tree,
      Grown (if kept = [] then staging.dropLast else staging ++ above) disk mid → Confined staging disk mid := by
    intro mid grown
    split at grown
    · exact (grown.mono (parentAbove staging)).confined List.prefix_rfl
    · exact grown.confined (List.prefix_append ..)
  refine .andThen (.weaken dirsEnd ?_ (fun _ mid stopped => ⟨⟨grownConfined mid stopped.1,stopped.1.standing standing⟩,stopped.2⟩))
  rintro _ mid ⟨grown,_⟩
  have confined := grownConfined mid grown
  have standingMid : Standing mid staging := grown.standing standing
  have stopped := And.intro confined standingMid
  refine namesThen ⟨stopped,rfl⟩ (fun last single => .branch (fun ending => ?_) (fun _ => ?_))
  swap
  · refine .andThen (ioEnds (performs (fun next ran => ?_) (fun _ _ => ⟨stopped,rfl⟩) (fun _ _ => ⟨stopped,rfl⟩)))
    split at ran <;> cases ran
  have longer : 0 < last.length := by
    have some : kept ≠ [] := by
      intro none
      have ended : (text.splitOn 47).getLast? = kept.getLast? := ending
      rw [none,List.getLast?_nil,List.getLast?_eq_none_iff] at ended
      exact List.splitOn_ne_nil 47 text ended
    have positive : 0 < kept.length := List.length_pos_iff.mpr some
    have drawn : last.length = (kept.drop kept.dropLast.length).length := single
    rw [drawn,List.length_drop,List.length_dropLast]
    omega
  have inside : staging <+: staging ++ above ++ last := by
    rw [List.append_assoc]
    exact List.prefix_append ..
  have below : staging.length < (staging ++ above ++ last).length := by
    simp only [List.length_append]
    omega
  refine .andThen (ioEnds (.weaken createFileEnds ?_ (fun _ next stopped => ?_)))
  · rintro _ next rfl
    exact .returns ⟨⟨inside,below⟩,confined.trans (setConfined inside),setStanding below standingMid⟩
  · rw [stopped.1]
    exact ⟨⟨confined,standingMid⟩,rfl⟩

theorem nextFault (stopped : nextEntry stream = .error e) : e.refusal = false := by
  unfold nextEntry at stopped
  repeat' split at stopped
  all_goals cases stopped <;> rfl

theorem entriesConfined {fuel stream} (standing : Standing disk staging) : Ends (extractEntries fault staging fuel stream) disk
      (fun _ next => Confined staging disk next ∧ Standing next staging)
      (fun e next => (Confined staging disk next ∧ Standing next staging) ∧ e.refusal = false) := by
  induction fuel generalizing stream disk with
  | zero => exact .fails ⟨⟨.refl staging disk,standing⟩,rfl⟩
  | succ fuel ih =>
    unfold extractEntries
    split
    · rename_i e stopped
      exact .fails ⟨⟨.refl staging disk,standing⟩,nextFault stopped⟩
    · exact .returns ⟨.refl staging disk,standing⟩
    · rename_i text size stream _
      refine .andThen (.gives (openConfined standing) ?_)
      rintro target mid ⟨⟨inside,below⟩,confined,standing⟩
      refine .andThen (ioEnds (.weaken writeEnds ?_ (fun _ next stopped => ?_)))
      · rintro _ written rfl
        have confined := confined.trans (setConfined (e := .file (stream.take size)) inside)
        have standing := setStanding (e := .file (stream.take size)) below standing
        refine .branch (fun _ => .fails ⟨⟨confined,standing⟩,rfl⟩) (fun _ => ?_)
        refine .andThen (ioEnds (.weaken syncEnds ?_ (fun _ next stopped => ?_)))
        · rintro _ synced rfl
          refine .weaken (ih standing) ?_ (fun _ _ later => ⟨⟨confined.trans later.1.1,later.1.2⟩,later.2⟩)
          exact fun _ _ later => ⟨confined.trans later.1,later.2⟩
        · rw [stopped.1]
          exact ⟨⟨confined,standing⟩,rfl⟩
      · rw [stopped.1]
        exact ⟨⟨confined,standing⟩,rfl⟩

def FilesBelow (staging : Path) (disk next : Tree) : Prop :=
  ∀ q content, next.get q = some (.file content) → disk.get q = some (.file content) ∨ (staging <+: q ∧ staging.length < q.length)

theorem standingBelow (confined : Confined staging disk next) (standing : Standing next staging) : FilesBelow staging disk next := by
  intro q content there
  by_cases under : staging <+: q
  · refine .inr ⟨under,lt_of_le_of_ne under.length_le (fun same => ?_)⟩
    rw [← under.eq_of_length same,standing staging List.prefix_rfl] at there
    cases there
  · by_cases above : q <+: staging
    · rw [standing q above] at there
      cases there
    · exact .inl ((confined q ⟨under,above⟩).symm.trans there)

theorem grownBelow (grown : Grown path disk next) : FilesBelow staging disk next := by
  intro q content there
  obtain same | ⟨_,_,made⟩ := grown q
  · exact .inl (same.symm.trans there)
  · rw [made] at there
    cases there

theorem FilesBelow.trans (first : FilesBelow staging disk mid) (second : FilesBelow staging mid next) :
    FilesBelow staging disk next := by
  intro q content there
  obtain before | below := second q content there
  · exact first q content before
  · exact .inr below

theorem extractBelow (archive) : Leaves (extractSiteArchive fault staging archive) disk (FilesBelow staging disk) := by
  have nothing : FilesBelow staging disk disk := fun _ _ there => .inl there
  unfold extractSiteArchive
  split
  · exact .fails nothing
  · refine .branch (fun _ => .fails nothing) (fun _ => ?_)
    refine .andThen (.weaken dirsEnd ?_ (fun _ _ stopped => grownBelow stopped.1))
    rintro _ mid ⟨grown,standing⟩
    refine .weaken (entriesConfined standing) ?_ (fun _ _ later => ?_)
    · exact fun _ _ later => (grownBelow grown).trans (standingBelow later.1 later.2)
    · exact (grownBelow grown).trans (standingBelow later.1.1 later.1.2)

end Confinement

inductive Records : Bytes → Prop where
  | nil : Records []
  | cons {length size path content rest : Bytes} (lengthField : length.length = 4) (sizeField : size.length = 8)
      (named : decode length = path.length) (sized : decode size = content.length) (others : Records rest) :
      Records (length ++ (size ++ (path ++ (content ++ rest))))

theorem readParts {stream front rest : Bytes} (ok : readExact n stream = some (front,rest)) :
    front.length = n ∧ stream = front ++ rest := by
  unfold readExact at ok
  split at ok <;> cases ok
  rename_i enough
  exact ⟨List.length_take_of_le enough,(List.take_append_drop n stream).symm⟩

theorem nextParts (next : nextEntry stream = .ok (some (text,size,left))) :
    ∃ length field, length.length = 4 ∧ field.length = 8 ∧ decode length = text.length ∧ decode field = size ∧
      stream = length ++ (field ++ (text ++ left)) := by
  unfold nextEntry at next
  split at next <;> try cases next
  rename_i length afterLength first
  split at next <;> try cases next
  split at next <;> try cases next
  rename_i field afterField second
  split at next <;> try cases next
  split at next <;> try cases next
  rename_i path afterPath third
  split at next <;> try cases next
  split at next <;> cases next
  obtain ⟨four,rfl⟩ := readParts first
  obtain ⟨eight,rfl⟩ := readParts second
  obtain ⟨named,rfl⟩ := readParts third
  exact ⟨length,field,four,eight,named.symm,rfl,rfl⟩

theorem nextNone (next : nextEntry stream = .ok none) : stream.length < 4 := by
  unfold nextEntry at next
  split at next
  · rename_i missing
    unfold readExact at missing
    split at missing <;> try cases missing
    omega
  · repeat' split at next
    all_goals cases next

theorem entriesRead : Ends (extractEntries fault staging fuel stream) disk
      (fun _ _ => ∃ body tail, Records body ∧ stream = body ++ tail ∧ tail.length < 4) (fun _ _ => True) := by
  induction fuel generalizing stream disk with
  | zero => exact .fails trivial
  | succ fuel ih =>
    unfold extractEntries
    split
    · exact .fails trivial
    · rename_i next
      exact .returns ⟨[],stream,.nil,rfl,nextNone next⟩
    · rename_i text size left next
      obtain ⟨length,field,four,eight,named,sized,rfl⟩ := nextParts next
      refine .andThen (.whatever (fun _ _ => ?_) (fun _ _ => trivial))
      refine .andThen (.whatever (fun _ _ => ?_) (fun _ _ => trivial))
      refine .branch (fun _ => .fails trivial) (fun whole => ?_)
      refine .andThen (.whatever (fun _ _ => ?_) (fun _ _ => trivial))
      refine .weaken ih ?_ (fun _ _ _ => trivial)
      rintro _ _ ⟨body,tail,records,rest,short⟩
      have content : (left.take size).length = size := List.length_take_of_le (by omega)
      refine ⟨_,tail,.cons four eight named (sized.trans content.symm) records,?_,short⟩
      simp only [List.append_assoc]
      rw [← rest,List.take_append_drop]

theorem recordsShort (records : Records bytes) (short : bytes.length < 4) : bytes = [] := by
  cases records with
  | nil => rfl
  | cons lengthField =>
    rw [List.length_append,lengthField] at short
    omega

theorem recordsTail (records : Records body) (whole : Records (body ++ tail)) (short : tail.length < 4) : tail = [] := by
  induction records with
  | nil => exact recordsShort whole short
  | @cons length size path content rest four eight named sized _ ih =>
    simp only [List.append_assoc] at whole
    generalize joined : length ++ (size ++ (path ++ (content ++ (rest ++ tail)))) = bytes at whole
    cases whole with
    | nil => simp [List.append_eq_nil_iff] at joined; simp [joined] at four
    | @cons length' size' path' content' rest' four' eight' named' sized' others =>
      obtain ⟨rfl,afterLength⟩ := List.append_inj joined (four.trans four'.symm)
      obtain ⟨rfl,afterSize⟩ := List.append_inj afterLength (eight.trans eight'.symm)
      obtain ⟨rfl,afterPath⟩ := List.append_inj afterSize (named.symm.trans named')
      obtain ⟨_,rfl⟩ := List.append_inj afterPath (sized.symm.trans sized')
      exact ih others

theorem archiveRead : Ends (extractSiteArchive fault staging archive) disk
      (fun _ _ => ∃ body tail, Records body ∧ archive = magic ++ (body ++ tail) ∧ tail.length < 4) (fun _ _ => True) := by
  unfold extractSiteArchive
  split
  · exact .fails trivial
  · rename_i start stream opened
    refine .branch (fun _ => .fails trivial) (fun same => ?_)
    obtain ⟨_,rfl⟩ := readParts opened
    refine .andThen (.whatever (fun _ _ => ?_) (fun _ _ => trivial))
    refine .weaken entriesRead ?_ (fun _ _ _ => trivial)
    rintro _ _ ⟨body,tail,records,rfl,short⟩
    exact ⟨body,tail,records,by rw [not_not.mp same],short⟩

theorem archiveExact (fault : Call Name → Option String) (staging : Path) (disk : Tree) (archive : Bytes) :
    (∀ next, exec (extractSiteArchive fault staging archive) disk = (.ok (),next) →
      ((∃ body, Records body ∧ archive = magic ++ body) ↔
        ¬∃ body tail, Records body ∧ archive = magic ++ (body ++ tail) ∧ 1 ≤ tail.length ∧ tail.length ≤ 3)) ∧
    FilesBelow staging disk (exec (extractSiteArchive fault staging archive) disk).2 := by
  refine ⟨fun next ran => ⟨?_,fun exactly => ?_⟩,?_⟩
  · rintro ⟨whole,records,rfl⟩ ⟨body,tail,front,same,some,short⟩
    cases List.append_cancel_left same
    have none := recordsTail front records (by omega)
    simp [none] at some
  · obtain ⟨body,tail,records,same,short⟩ := archiveRead.reached ran
    cases tail with
    | nil => exact ⟨body,records,by rw [same,List.append_nil]⟩
    | cons b rest => exact absurd ⟨body,b::rest,records,same,by simp,by omega⟩ exactly
  · exact Ends.always (extractBelow archive)

section RoundTrip

variable {staging : Path} {disk : Tree} {done : List (Path × Bytes)} {f : Path × Bytes}

def faultless (_ : Call Name) : Option String := none

theorem notBlocked (opened : ∀ q content, q <+: path → disk.get q ≠ some (.file content)) : ¬ Blocked faultless path disk := by
  rintro ⟨q,on,faulted | ⟨content,there⟩⟩
  · exact faulted rfl
  · exact opened q content on there

theorem namesGiven (made : parts.mapM Name.ofBytes = some names) (rest : Ends (next names) disk post failed) :
    Ends (namesOf parts >>= next) disk post failed := by
  refine .asks ?_ ?_ <;> simp only [made]
  · rintro _ ⟨⟩
    exact rest
  · nofun

theorem openText (named : f.1 ≠ []) (laidOut : Laid staging done disk) (standing : Standing disk staging)
    (free : ∀ g ∈ done, Apart g.1 f.1) : Ends (openEntry faultless staging (pathText f.1)) disk
      (fun target next => target = staging ++ f.1 ∧ ∃ mid, Grown (staging ++ f.1.dropLast) disk mid ∧
        Standing mid (staging ++ f.1.dropLast) ∧ next = mid.set (staging ++ f.1) (.file [])) (fun _ _ => False) := by
  have split := splitText named
  have kept : (f.1.map Name.bytes).filter (fun part => part ≠ [] && part ≠ [46]) = f.1.map Name.bytes := by
    refine List.filter_eq_self.mpr (fun part mem => ?_)
    have legal := partsLegal mem
    simp [legal.1,legal.2.1]
  have filled : f.1.map Name.bytes ≠ [] := by simpa using named
  have front : (f.1.map Name.bytes).dropLast.mapM Name.ofBytes = some f.1.dropLast := by
    rw [← List.map_dropLast,namesMap]
  have back : ((f.1.map Name.bytes).drop (f.1.map Name.bytes).dropLast.length).mapM Name.ofBytes =
      some (f.1.drop f.1.dropLast.length) := by
    rw [List.length_dropLast,List.length_map,← List.length_dropLast,← List.map_drop,namesMap]
  have whole : staging ++ f.1.dropLast ++ f.1.drop f.1.dropLast.length = staging ++ f.1 := by
    rw [List.append_assoc,List.length_dropLast,List.dropLast_eq_take,List.take_append_drop]
  have above : (staging ++ f.1).dropLast = staging ++ f.1.dropLast := List.dropLast_append_of_ne_nil named
  unfold openEntry
  simp only [split,kept,if_neg filled]
  refine namesGiven front (.andThen (ioEnds (.weaken (createDirAllEnds ?_) ?_ ?_)))
  · exact fun q on other => absurd (List.prefix_nil.mp on) other
  · rintro _ mid ⟨grown,standingMid⟩
    refine namesGiven back (.andThen (ioEnds (.weaken createFileEnds ?_ ?_)))
    · rintro _ next rfl
      rw [whole]
      exact .returns ⟨rfl,mid,grown,standingMid,rfl⟩
    · rw [whole]
      rintro _ _ ⟨_,faulted | directory | orphan⟩
      · exact faulted rfl
      · -- Nothing is there yet, and the new directories end above it.
        rcases grown (staging ++ f.1) with same | ⟨on,_⟩
        · rw [same,laidOut,laidFree named free] at directory
          cases directory
        · have shorter := ((List.prefix_append_right_inj staging).mp on).length_le
          have positive := List.length_pos_iff.mpr named
          rw [List.length_dropLast] at shorter
          omega
      · exact orphan (above ▸ standingMid _ List.prefix_rfl)
  · rintro _ _ ⟨_,blocked⟩
    refine notBlocked (fun q content on there => ?_) blocked
    have onto : q <+: staging ++ f.1 := on.trans ((List.prefix_append_right_inj staging).mpr (parentAbove f.1))
    exact laidOpen laidOut standing free onto there

theorem layEntry {fuel rest} (named : f.1 ≠ []) (portable : Portable f)
    (laidOut : Laid staging done disk) (standing : Standing disk staging) (free : ∀ g ∈ done, Apart g.1 f.1)
    (next : ∀ mid, Laid staging (done ++ [f]) mid → Standing mid staging →
      Ends (extractEntries faultless staging fuel rest) mid post (fun _ _ => False)) :
    Ends (extractEntries faultless staging (fuel + 1) (frame (pathText f.1) f.2 ++ rest)) disk post (fun _ _ => False) := by
  unfold extractEntries
  simp only [nextFrame named portable,List.take_left,List.drop_left,List.length_append,
    if_neg (Nat.not_lt.mpr (Nat.le_add_right ..))]
  refine .andThen (.gives (openText named laidOut standing free) ?_)
  rintro _ opened ⟨rfl,mid,grown,standingMid,rfl⟩
  refine .andThen (ioEnds (.weaken writeEnds ?_ (fun _ _ stopped => stopped.2 rfl)))
  rintro _ written rfl
  refine .andThen (ioEnds (.weaken syncEnds ?_ (fun _ _ stopped => stopped.2 rfl)))
  rintro _ synced rfl
  have below : staging.length < (staging ++ f.1).length := by
    have positive := List.length_pos_iff.mpr named
    simp only [List.length_append]
    omega
  refine next _ (fun rel => ?_) (setStanding below (setStanding below (grown.standing standing)))
  rw [setAgain]
  exact laidStep laidOut free grown standingMid rel

theorem layEntries (files) (enough : files.length < fuel) (named : ∀ f ∈ files, f.1 ≠ []) (portable : ∀ f ∈ files, Portable f)
    (apart : (done ++ files).Pairwise (fun f g => Apart f.1 g.1))
    (laidOut : Laid staging done disk) (standing : Standing disk staging) :
    Ends (extractEntries faultless staging fuel (files.flatMap (fun f => frame (pathText f.1) f.2))) disk
      (fun _ next => Laid staging (done ++ files) next) (fun _ _ => False) := by
  induction files generalizing fuel done disk with
  | nil =>
    obtain ⟨fuel,rfl⟩ := Nat.exists_eq_add_one_of_ne_zero (Nat.ne_of_gt enough)
    rw [List.append_nil]
    exact .returns laidOut
  | cons f files ih =>
    obtain ⟨fuel,rfl⟩ := Nat.exists_eq_add_one_of_ne_zero (Nat.ne_zero_of_lt enough)
    rw [List.flatMap_cons]
    have free : ∀ g ∈ done, Apart g.1 f.1 := fun g mem =>
      (List.pairwise_append.mp apart).2.2 g mem f List.mem_cons_self
    refine layEntry (named f List.mem_cons_self) (portable f List.mem_cons_self) laidOut standing free ?_
    intro mid laidMid standingMid
    have later := @ih mid (done ++ [f]) fuel (Nat.lt_of_succ_lt_succ enough)
      (fun g mem => named g (List.mem_cons_of_mem _ mem)) (fun g mem => portable g (List.mem_cons_of_mem _ mem))
      (by simpa using apart) laidMid standingMid
    simpa using later

def Vacant (disk : Tree) (staging : Path) : Prop :=
  (∀ q, staging <+: q → disk.get q = none) ∧ ∀ q content, q <+: staging → disk.get q ≠ some (.file content)

def packed (files : List (Path × Bytes)) : Bytes := magic ++ files.flatMap (fun f => frame (pathText f.1) f.2)

theorem packedLength (files : List (Path × Bytes)) : files.length ≤ (files.flatMap (fun f => frame (pathText f.1) f.2)).length := by
  induction files with
  | nil => simp
  | cons f files ih =>
    have positive : 0 < (frame (pathText f.1) f.2).length := by simp [frame]
    simp only [List.length_cons,List.flatMap_cons,List.length_append]
    omega

theorem extractLaid {files} (vacant : Vacant disk staging) (named : ∀ f ∈ files, f.1 ≠ []) (portable : ∀ f ∈ files, Portable f)
    (apart : files.Pairwise (fun f g => Apart f.1 g.1)) : Ends (extractSiteArchive faultless staging (packed files)) disk
      (fun _ next => Laid staging files next) (fun _ _ => False) := by
  have start : readExact 6 (packed files) = some (magic,files.flatMap (fun f => frame (pathText f.1) f.2)) :=
    readExactAppend magic _
  unfold extractSiteArchive
  refine .andThen (ioEnds (.weaken (createDirAllEnds ?_) ?_ ?_))
  · exact fun q on other => absurd (List.prefix_nil.mp on) other
  · rintro _ mid ⟨grown,standing⟩
    rw [List.nil_append] at grown standing
    have empty : Laid staging [] mid := by
      intro rel
      by_cases root : rel = []
      · subst root
        rw [List.append_nil,standing staging List.prefix_rfl]
        rfl
      · rcases grown (staging ++ rel) with same | ⟨on,_⟩
        · rw [same,vacant.1 _ (List.prefix_append ..)]
          simp [laid,root]
        · have shorter := on.length_le
          have positive := List.length_pos_iff.mpr root
          rw [List.length_append] at shorter
          omega
    exact @layEntries staging mid [] _ files (Nat.lt_succ_of_le (packedLength files)) named portable apart empty standing
  · rintro _ _ ⟨_,blocked⟩
    exact notBlocked vacant.2 blocked

theorem streamPacked (named : ∀ f ∈ files, f.1 ≠ []) :
    streamFiles files = .ok (files.flatMap (fun f => frame (asStr (pathText f.1)) f.2)) := by
  induction files with
  | nil => rfl
  | cons f files ih =>
    simp only [streamFiles,checkText (named f List.mem_cons_self),ih (fun g mem => named g (List.mem_cons_of_mem _ mem))]
    rfl

theorem framePortable (portable : Portable f) : frame (asStr (pathText f.1)) f.2 = frame (pathText f.1) f.2 := by
  rw [asStr,if_pos portable.1]

/-- The fields of a frame hold its lengths. -/
def Framed (f : Path × Bytes) : Prop := (pathText f.1).length < 256 ^ 4 ∧ f.2.length < 256 ^ 8

theorem nextRefused (framed : Framed f) (other : ¬ Portable f) (rest) :
    nextEntry (frame (asStr (pathText f.1)) f.2 ++ rest) = .error .corrupt := by
  have first := readExactAppend (encode 4 (asStr (pathText f.1)).length)
    (encode 8 f.2.length ++ (asStr (pathText f.1) ++ (f.2 ++ rest)))
  have second := readExactAppend (encode 8 f.2.length) (asStr (pathText f.1) ++ (f.2 ++ rest))
  rw [encodeLength] at first second
  have shorter : (asStr (pathText f.1)).length < 256 ^ 4 := by
    unfold asStr
    split
    · exact framed.1
    · decide
  simp only [nextEntry,frame,List.append_assoc,first,second,decodeEncode shorter,decodeEncode framed.2]
  by_cases named : (asStr (pathText f.1)).length = 0 ∨ (asStr (pathText f.1)).length > maxPathLen
  · rw [if_pos named]
  · rw [if_neg named,if_pos ?_]
    by_contra small
    refine other ⟨?_,?_,Nat.not_lt.mp small⟩
    · by_contra foreign
      exact named (.inl (by simp [asStr,foreign]))
    · by_contra long
      by_cases utf8 : isUtf8 (pathText f.1) = true
      · exact named (.inr (by rw [asStr,if_pos utf8]; exact Nat.not_le.mp long))
      · exact named (.inl (by simp [asStr,utf8]))

theorem entriesRefused {fuel disk} (files : List (Path × Bytes)) (named : ∀ f ∈ files, f.1 ≠ []) (framed : ∀ f ∈ files, Framed f)
    (other : ∃ f ∈ files, ¬ Portable f) :
    Ends (extractEntries fault staging fuel (files.flatMap (fun f => frame (asStr (pathText f.1)) f.2))) disk
      (fun _ _ => False) (fun _ _ => True) := by
  induction files generalizing fuel disk with
  | nil => simp at other
  | cons f files ih =>
    cases fuel with
    | zero => exact .fails trivial
    | succ fuel =>
      rw [List.forall_mem_cons] at named framed
      unfold extractEntries
      by_cases portable : Portable f
      · have later : ∃ f ∈ files, ¬ Portable f := by simpa [portable] using other
        rw [List.flatMap_cons,framePortable portable]
        simp only [nextFrame named.1 portable,List.drop_left]
        refine .andThen (.whatever (fun _ _ => .andThen (.whatever (fun _ _ => ?_) (fun _ _ => trivial))) (fun _ _ => trivial))
        refine .branch (fun _ => .fails trivial) (fun _ => .andThen (.whatever (fun _ _ => ?_) (fun _ _ => trivial)))
        exact ih named.2 framed.2 later
      · rw [List.flatMap_cons]
        simp only [nextRefused framed.1 portable]
        exact .fails trivial

theorem extractRefused {files : List (Path × Bytes)} (named : ∀ f ∈ files, f.1 ≠ []) (framed : ∀ f ∈ files, Framed f)
    (other : ∃ f ∈ files, ¬ Portable f) :
    Ends (extractSiteArchive fault staging (magic ++ files.flatMap (fun f => frame (asStr (pathText f.1)) f.2))) disk
      (fun _ _ => False) (fun _ _ => True) := by
  have start : readExact 6 (magic ++ files.flatMap (fun f => frame (asStr (pathText f.1)) f.2)) = some (magic,_) := readExactAppend magic _
  unfold extractSiteArchive
  simp only [start]
  refine .branch (fun _ => .fails trivial) (fun _ => .andThen (.whatever (fun _ _ => ?_) (fun _ _ => trivial)))
  exact entriesRefused files named framed other

end RoundTrip

def Regular (tree : Tree) (source : Path) : Prop :=
  ∀ rel content more, tree.get (source ++ rel) = some (.file content) → more ≠ [] →
    tree.get (source ++ rel ++ more) = none

theorem fileBelowSome : fileBelow tree source p = some (rel,content) ↔ p = source ++ rel ∧ tree.get p = some (.file content) := by
  unfold fileBelow
  constructor
  · intro found
    split at found <;> try contradiction
    rename_i below
    obtain ⟨rest,rfl⟩ := below
    split at found <;> cases found
    rename_i there
    exact ⟨by rw [List.drop_left],there⟩
  · rintro ⟨rfl,there⟩
    simp [there]

theorem regularHeld : (∀ p ∈ tree.paths, ∀ q ∈ tree.paths, (fileBelow tree source p).isSome → p <+: q → p ≠ q →
    tree.get q = none) ↔ Regular tree source := by
  constructor
  · intro held rel content more there longer
    by_contra something
    have file : source ++ rel ∈ tree.paths := tree.held _ (by simp [there])
    refine something (held _ file _ (tree.held _ something) ?_ ?_ ?_)
    · exact Option.isSome_iff_exists.mpr ⟨_,fileBelowSome.mpr ⟨rfl,there⟩⟩
    · exact List.prefix_append ..
    · simpa using longer
  · rintro regular p _ q _ file ⟨more,rfl⟩ other
    obtain ⟨⟨rel,content⟩,found⟩ := Option.isSome_iff_exists.mp file
    obtain ⟨rfl,there⟩ := fileBelowSome.mp found
    exact regular rel content more there (fun none => other (by simp [none]))

instance : Decidable (Regular tree source) := decidable_of_iff _ regularHeld

theorem memWalk : (rel,content) ∈ walk tree source ↔ tree.get (source ++ rel) = some (.file content) := by
  simp only [walk,List.mem_insertionSort,List.mem_filterMap,List.mem_dedup,fileBelowSome]
  constructor
  · rintro ⟨_,_,rfl,there⟩
    exact there
  · intro there
    exact ⟨source ++ rel,tree.held _ (by simp [there]),rfl,there⟩

theorem walkNodup : (walk tree source).Nodup := by
  refine (List.perm_insertionSort _ _).nodup_iff.mpr ?_
  refine (List.nodup_dedup tree.paths).filterMap ?_
  rintro p q ⟨rel,content⟩ left right
  exact (fileBelowSome.mp left).1.trans (fileBelowSome.mp right).1.symm

theorem walkApart (regular : Regular tree source) : (walk tree source).Pairwise (fun f g => Apart f.1 g.1) := by
  have same : ∀ f ∈ walk tree source, ∀ g ∈ walk tree source, f.1 <+: g.1 → f = g := by
    rintro ⟨rel,content⟩ left ⟨rel',content'⟩ right ⟨more,extended⟩
    subst extended
    rw [memWalk] at left right
    cases more with
    | nil =>
      rw [List.append_nil] at right ⊢
      cases left.symm.trans right
      rfl
    | cons n more =>
      rw [← List.append_assoc] at right
      exact absurd (right.symm.trans (regular rel content (n::more) left nofun)) nofun
  refine walkNodup.pairwise_of_forall_ne (fun f left g right other => ⟨?_,?_⟩)
  · exact fun above => other (same f left g right above)
  · exact fun below => other (same g right f left below).symm

theorem walkNamed (root : tree.get source = some .dir) : ∀ f ∈ walk tree source, f.1 ≠ [] := by
  rintro ⟨rel,content⟩ mem empty
  rw [memWalk] at mem
  simp only at empty
  rw [empty,List.append_nil,root] at mem
  cases mem

theorem streamOk (streamed : streamSiteArchive tree source = .ok archive) : (∀ f ∈ walk tree source, f.1 ≠ []) ∧
    archive = magic ++ (walk tree source).flatMap (fun f => frame (asStr (pathText f.1)) f.2) := by
  unfold streamSiteArchive at streamed
  split at streamed <;> try contradiction
  rename_i root
  have named := walkNamed root
  simp only [streamPacked named,okBind] at streamed
  cases streamed
  exact ⟨named,rfl⟩

theorem streamPortable (streamed : streamSiteArchive tree source = .ok archive) (portable : ∀ f ∈ walk tree source, Portable f) :
    archive = packed (walk tree source) := by
  rw [(streamOk streamed).2,packed,List.flatMap_def,List.flatMap_def,List.map_congr_left (fun f mem => framePortable (portable f mem))]

theorem archiveLossless (tree : Tree) (source : Path) {archive} (regular : Regular tree source)
    (framed : ∀ f ∈ walk tree source, Framed f) (streamed : streamSiteArchive tree source = .ok archive)
    (disk : Tree) (staging : Path) (vacant : Vacant disk staging) :
    (∃ next, exec (extractSiteArchive faultless staging archive) disk = (.ok (),next) ∧
      ∀ rel content, next.get (staging ++ rel) = some (.file content) ↔ tree.get (source ++ rel) = some (.file content)) ↔
    ∀ f ∈ walk tree source, Portable f := by
  obtain ⟨named,written⟩ := streamOk streamed
  constructor
  · rintro ⟨next,ran,_⟩
    by_contra other
    simp only [not_forall] at other
    obtain ⟨f,mem,bad⟩ := other
    rw [written] at ran
    exact (extractRefused named framed ⟨f,mem,bad⟩).reached ran
  · intro portable
    rw [streamPortable streamed portable]
    have apart := walkApart regular
    obtain ⟨_,next,ran,laidOut⟩ := (extractLaid vacant named portable apart).succeeds
    refine ⟨next,ran,fun rel content => ?_⟩
    rw [laidOut,laidFile apart,memWalk]

def www : Name := ⟨[119,119,119],by decide⟩
def css : Name := ⟨[99,115,115],by decide⟩
def main : Name := ⟨[109],by decide⟩
def latin : Name := ⟨[233],by decide⟩

def site : Tree :=
  (((bare.set [www] .dir).set [www,css] .dir).set [www,css,main] (.file [1,2])).set [www,main] (.file [])

theorem archiveLosslessSite : ∃ archive next, streamSiteArchive site [www] = .ok archive ∧
    exec (extractSiteArchive faultless [main] archive) bare = (.ok (),next) ∧
    next.get [main,css,main] = some (.file [1,2]) ∧ next.get [main,main] = some (.file []) := by
  have streamed : streamSiteArchive site [www] = .ok (packed [([css,main],[1,2]),([main],[])]) := by decide +kernel
  have walked : walk site [www] = [([css,main],[1,2]),([main],[])] := by decide +kernel
  have portable : ∀ f ∈ walk site [www], Portable f := by rw [walked]; decide +kernel
  have framed : ∀ f ∈ walk site [www], Framed f := by
    rw [walked]
    simp [Framed,pathText,css,main]
  have regular : Regular site [www] := by decide +kernel
  have vacant : Vacant bare [main] := ⟨fun _ _ => rfl,nofun⟩
  obtain ⟨next,ran,same⟩ := (archiveLossless site [www] regular framed streamed bare [main] vacant).mpr portable
  exact ⟨_,next,streamed,ran,(same [css,main] [1,2]).mpr rfl,(same [main] []).mpr rfl⟩

theorem oneFileExact : ∃ next, exec (extractSiteArchive faultless [main] (packed [([main],[1])])) bare = (.ok (),next) ∧
    ¬∃ body tail, Records body ∧ packed [([main],[1])] = magic ++ (body ++ tail) ∧ 1 ≤ tail.length ∧ tail.length ≤ 3 := by
  have vacant : Vacant bare [main] := ⟨fun _ _ => rfl,nofun⟩
  obtain ⟨_,next,ran,_⟩ := Ends.succeeds
    (extractLaid vacant (show ∀ f ∈ [([main],[1])],f.1 ≠ [] by decide) (by decide) (List.pairwise_singleton _ _))
  refine ⟨next,ran,((archiveExact faultless [main] bare (packed [([main],[1])])).1 next ran).mp ⟨_,?_,rfl⟩⟩
  exact @Records.cons (encode 4 1) (encode 8 1) [109] [1] [] rfl rfl rfl rfl .nil

theorem trailingByteRead : (exec (extractSiteArchive faultless [main] (magic ++ [0])) bare).1 = .ok () ∧
    ¬∃ body, Records body ∧ magic ++ [0] = magic ++ body := by
  refine ⟨rfl,?_⟩
  rintro ⟨body,records,same⟩
  cases List.append_cancel_left same
  cases recordsShort records (by decide)

theorem latinNameLost : ∃ archive, streamSiteArchive ((bare.set [www] .dir).set [www,latin] (.file [1])) [www] =
    .ok archive ∧ (exec (extractSiteArchive faultless [main] archive) bare).1 = .error .corrupt := by
  refine ⟨magic ++ frame [] [1],by decide +kernel,by decide +kernel⟩

end OpenPanel.Backups
