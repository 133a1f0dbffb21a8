import Coro.Passthrough.EnumerateDevice

/-!
`AlsaPassthroughSink::enumerateDevices`, the list of output devices: the loop over the hints of
`snd_device_name_hint`, the removal of redundant `sysdefault` entries, and the uniqueness check
of the display names. The `std::set`s of the check are lists built with `insert`.
-/

namespace AlsaPassthroughSink

/-- A hint of `snd_device_name_hint`: its `IOID`, `NAME` and `DESC`, `none` for `NULL`. -/
structure Hint where
  io : Option (List Char)
  name : Option (List Char)
  desc : Option (List Char)
deriving DecidableEq, Repr

/-- `name.substr(0, name.find(':'))`. -/
def baseName (name : List Char) : List Char :=
  match find name [':'] with
  | some colon => name.take colon
  | none => name

/-- The bases of the hints that are not enumerated besides `front`: `default`, the `surroundXX`
devices, and the extra devices of `defaults.namehint.extended`. -/
def skippedBases : List (List Char) :=
  ["default".toList, "surround40".toList, "surround41".toList, "surround50".toList, "surround51".toList,
    "surround71".toList, "hw".toList, "dmix".toList, "plughw".toList, "dsnoop".toList]

/-- The `"default"` entry at the head of the list, named after the description of the `default`
hint, or "Default" when it has no name. -/
def nameDefault (defaultDescription : List Char) : List AudioDeviceInfo → List AudioDeviceInfo
  | [] => []
  | info :: rest =>
    if info.deviceName = "default".toList then
      (if defaultDescription ≠ [] then { info with displayName := defaultDescription }
      else if info.displayName = [] then { info with displayName := "Default".toList }
      else info) :: rest
    else info :: rest

/-- `GetParamFromName(deviceName, "CARD")`. -/
def AudioDeviceInfo.card (info : AudioDeviceInfo) : List Char := getParamFromName info.deviceName "CARD".toList

/-- `GetParamFromName(deviceName, "DEV")`. -/
def AudioDeviceInfo.dev (info : AudioDeviceInfo) : List Char := getParamFromName info.deviceName "DEV".toList

/-- `cardsWithSurround`: the cards of the `@` entries that name one. -/
def cardsWithSurround (list : List AudioDeviceInfo) : List (List Char) :=
  list.foldl (fun cards info =>
    if baseName info.deviceName = ['@'] ∧ info.card ≠ [] then cards.insert info.card else cards) []

/-- Whether an entry is a `sysdefault` device on one of `cards`. -/
def redundantSysdefault (cards : List (List Char)) (info : AudioDeviceInfo) : Bool :=
  baseName info.deviceName = "sysdefault".toList ∧ info.card ∈ cards

/-- The erase loop over the `sysdefault` entries of `cards`, with the iterator at position `i`. -/
def eraseSysdefault (cards : List (List Char)) : Nat → Nat → List AudioDeviceInfo → List AudioDeviceInfo
  | 0, _, list => list
  | fuel + 1, i, list =>
    match list[i]? with
    | none => list
    | some info =>
      if redundantSysdefault cards info then eraseSysdefault cards fuel i (list.eraseIdx i)
      else eraseSysdefault cards fuel (i + 1) list

/-- The removal of the `sysdefault` entries of `cards`, when there are any. -/
def removeSysdefault (cards : List (List Char)) (list : List AudioDeviceInfo) : List AudioDeviceInfo :=
  if cards = [] then list else eraseSysdefault cards list.length 0 list

/-- `cardsToAppend` and `devsToAppend`, the sets the uniqueness check fills. -/
structure Clashes where
  cards : List (List Char)
  devs : List (List Char × List Char)
deriving DecidableEq, Repr

/-- An entry with `" (" + suffix + ")"` appended to its display name. -/
def AudioDeviceInfo.appendName (info : AudioDeviceInfo) (suffix : List Char) : AudioDeviceInfo :=
  { info with displayName := info.displayName ++ " (".toList ++ suffix ++ [')'] }

/-- The inner loop of the uniqueness check, `it1` against each entry after it; both may be
renamed on the way. -/
def clashWith (a : AudioDeviceInfo) : List AudioDeviceInfo → Clashes → AudioDeviceInfo × List AudioDeviceInfo × Clashes
  | [], clashes => (a, [], clashes)
  | b :: rest, clashes =>
    if a.displayName = b.displayName ∧ a.displayNameExtra = b.displayNameExtra then
      if a.card ≠ b.card then
        let after := clashWith a rest ⟨(clashes.cards.insert a.card).insert b.card, clashes.devs⟩
        (after.1, b :: after.2.1, after.2.2)
      else if a.dev ≠ b.dev then
        let after := clashWith a rest
          ⟨clashes.cards, (clashes.devs.insert (baseName a.deviceName, a.card)).insert (baseName b.deviceName, b.card)⟩
        (after.1, b :: after.2.1, after.2.2)
      else
        let after := clashWith (a.appendName a.deviceName) rest clashes
        (after.1, b.appendName b.deviceName :: after.2.1, after.2.2)
    else
      let after := clashWith a rest clashes
      (after.1, b :: after.2.1, after.2.2)

/-- The outer loop of the uniqueness check over the first `fuel` entries; over the whole list with
its length. -/
def clashPass : Nat → List AudioDeviceInfo → Clashes → List AudioDeviceInfo × Clashes
  | fuel + 1, a :: rest, clashes =>
    let inner := clashWith a rest clashes
    let after := clashPass fuel inner.2.1 inner.2.2
    (inner.1 :: after.1, after.2)
  | _, list, clashes => (list, clashes)

/-- A loop over the elements of one of the sets: every entry whose `key` is the element gets
`suffix`. -/
def appendToMatching {α : Type} [DecidableEq α] (key : AudioDeviceInfo → α) (suffix : AudioDeviceInfo → AudioDeviceInfo)
    (xs : List α) (list : List AudioDeviceInfo) : List AudioDeviceInfo :=
  xs.foldl (fun list x => list.map fun info => if key info = x then suffix info else info) list

/-- The loop over `cardsToAppend`: "HDA NVidia (NVidia)", "HDA NVidia (NVidia_2)", ... -/
def appendCards (cards : List (List Char)) (list : List AudioDeviceInfo) : List AudioDeviceInfo :=
  appendToMatching AudioDeviceInfo.card (fun info => info.appendName info.card) cards list

/-- The loop over `devsToAppend`, on the base name and card of each entry: "HDMI #0", "HDMI #1",
... -/
def appendDevs (devs : List (List Char × List Char)) (list : List AudioDeviceInfo) : List AudioDeviceInfo :=
  appendToMatching (fun info => (baseName info.deviceName, info.card))
    (fun info => { info with displayNameExtra := info.displayNameExtra ++ " #".toList ++ info.dev }) devs list

/-- The uniqueness check of the display names, and the suffixes it decides on. -/
def checkNames (list : List AudioDeviceInfo) : List AudioDeviceInfo :=
  let checked := clashPass list.length list ⟨[], []⟩
  appendDevs checked.2.devs (appendCards checked.2.cards checked.1)

/-- What `enumerateDevices` does after the loop over the hints. -/
def finishList (defaultDescription : List Char) (list : List AudioDeviceInfo) : List AudioDeviceInfo :=
  let list := nameDefault defaultDescription list
  checkNames (removeSysdefault (cardsWithSurround list) list)

/-! ### What the passes after the loop keep -/

/-- An entry without its display name and extra, the two fields the passes after the loop over the
hints rewrite. -/
def AudioDeviceInfo.probed (info : AudioDeviceInfo) : AudioDeviceInfo :=
  { info with displayName := [], displayNameExtra := [] }

theorem map_probed_nameDefault (defaultDescription : List Char) (list : List AudioDeviceInfo) :
    (nameDefault defaultDescription list).map AudioDeviceInfo.probed = list.map AudioDeviceInfo.probed := by
  cases list with
  | nil => rfl
  | cons info rest =>
    rw [nameDefault]
    split_ifs <;> rfl

theorem clashWith_probed : ∀ (rest : List AudioDeviceInfo) (a : AudioDeviceInfo) (clashes : Clashes),
    (clashWith a rest clashes).1.probed = a.probed ∧
      (clashWith a rest clashes).2.1.map AudioDeviceInfo.probed = rest.map AudioDeviceInfo.probed
  | [], _, _ => ⟨rfl, rfl⟩
  | b :: rest, a, clashes => by
    unfold clashWith
    split
    · dsimp only
      split
      · exact ⟨(clashWith_probed rest a _).1, congrArg (_ :: ·) (clashWith_probed rest a _).2⟩
      · split
        · exact ⟨(clashWith_probed rest a _).1, congrArg (_ :: ·) (clashWith_probed rest a _).2⟩
        · exact ⟨(clashWith_probed rest _ clashes).1, congrArg (_ :: ·) (clashWith_probed rest _ clashes).2⟩
    · exact ⟨(clashWith_probed rest a clashes).1, congrArg (_ :: ·) (clashWith_probed rest a clashes).2⟩

theorem clashPass_probed : ∀ (fuel : Nat) (list : List AudioDeviceInfo) (clashes : Clashes),
    (clashPass fuel list clashes).1.map AudioDeviceInfo.probed = list.map AudioDeviceInfo.probed
  | 0, _, _ => rfl
  | _ + 1, [], _ => rfl
  | fuel + 1, a :: rest, clashes => by
    obtain ⟨first, later⟩ := clashWith_probed rest a clashes
    simp only [clashPass, List.map_cons, first, clashPass_probed fuel, later]

theorem map_probed_appendToMatching {α : Type} [DecidableEq α] (key : AudioDeviceInfo → α)
    (suffix : AudioDeviceInfo → AudioDeviceInfo) (keeps : ∀ info, (suffix info).probed = info.probed) :
    ∀ (xs : List α) (list : List AudioDeviceInfo),
      (appendToMatching key suffix xs list).map AudioDeviceInfo.probed = list.map AudioDeviceInfo.probed
  | [], _ => rfl
  | x :: xs, list => by
    rw [appendToMatching, List.foldl_cons, ← appendToMatching, map_probed_appendToMatching key suffix keeps xs,
      List.map_map]
    exact List.map_congr_left fun info _ => by dsimp only [Function.comp]; split <;> simp only [keeps]

theorem map_probed_checkNames (list : List AudioDeviceInfo) :
    (checkNames list).map AudioDeviceInfo.probed = list.map AudioDeviceInfo.probed := by
  rw [checkNames, appendDevs, map_probed_appendToMatching, appendCards, map_probed_appendToMatching,
    clashPass_probed]
  all_goals exact fun _ => rfl

theorem cardsWithSurround_probed (list : List AudioDeviceInfo) :
    cardsWithSurround (list.map AudioDeviceInfo.probed) = cardsWithSurround list := by
  rw [cardsWithSurround, cardsWithSurround, List.foldl_map]
  rfl

theorem eraseSysdefault_eq (cards : List (List Char)) : ∀ (fuel i : Nat) (list : List AudioDeviceInfo),
    list.length ≤ i + fuel →
      eraseSysdefault cards fuel i list = list.take i ++ (list.drop i).filter fun info => !redundantSysdefault cards info
  | 0, i, list, short => by
    rw [eraseSysdefault, List.take_of_length_le (by omega), List.drop_of_length_le (by omega), List.filter_nil,
      List.append_nil]
  | fuel + 1, i, list, short => by
    rw [eraseSysdefault]
    cases lookup : list[i]? with
    | none =>
      have past := List.getElem?_eq_none_iff.mp lookup
      rw [List.take_of_length_le past, List.drop_of_length_le past, List.filter_nil, List.append_nil]
    | some info =>
      obtain ⟨inside, rfl⟩ := List.getElem?_eq_some_iff.mp lookup
      dsimp only
      rw [List.drop_eq_getElem_cons inside]
      by_cases redundant : redundantSysdefault cards list[i] = true
      · rw [if_pos redundant, eraseSysdefault_eq cards fuel i _ (by rw [List.length_eraseIdx]; split <;> omega),
          List.eraseIdx_eq_take_drop_succ, List.take_left' (List.length_take_of_le (by omega)),
          List.drop_left' (List.length_take_of_le (by omega)), List.filter_cons_of_neg (by simp [redundant])]
      · rw [if_neg redundant, eraseSysdefault_eq cards fuel (i + 1) list (by omega), List.filter_cons_of_pos (by simpa using redundant),
          List.take_succ, List.getElem?_eq_getElem inside, List.append_assoc]
        rfl

theorem removeSysdefault_eq (cards : List (List Char)) (list : List AudioDeviceInfo) :
    removeSysdefault cards list = list.filter fun info => !redundantSysdefault cards info := by
  unfold removeSysdefault
  split
  · subst cards
    exact (List.filter_eq_self.mpr fun info _ => by simp [redundantSysdefault]).symm
  · rw [eraseSysdefault_eq cards _ 0 list (by omega), List.take_zero, List.drop_zero, List.nil_append]

theorem map_probed_filter {list list' : List AudioDeviceInfo}
    (same : list.map AudioDeviceInfo.probed = list'.map AudioDeviceInfo.probed) (cards : List (List Char)) :
    (list.filter fun info => !redundantSysdefault cards info).map AudioDeviceInfo.probed =
      (list'.filter fun info => !redundantSysdefault cards info).map AudioDeviceInfo.probed := by
  have moved : ∀ l : List AudioDeviceInfo, (l.filter fun info => !redundantSysdefault cards info).map AudioDeviceInfo.probed =
      (l.map AudioDeviceInfo.probed).filter fun info => !redundantSysdefault cards info := fun l => by
    rw [List.filter_map]
    rfl
  rw [moved, moved, same]

theorem finishList_probed (defaultDescription : List Char) (list : List AudioDeviceInfo) :
    (finishList defaultDescription list).map AudioDeviceInfo.probed =
      (list.filter fun info => !redundantSysdefault (cardsWithSurround list) info).map AudioDeviceInfo.probed := by
  have named := map_probed_nameDefault defaultDescription list
  rw [finishList, map_probed_checkNames, removeSysdefault_eq,
    ← cardsWithSurround_probed (nameDefault _ _), named, cardsWithSurround_probed]
  exact map_probed_filter named _

theorem nameDefault_of_named {list : List AudioDeviceInfo} (named : ∀ info ∈ list, info.deviceName ≠ "default".toList)
    (defaultDescription : List Char) : nameDefault defaultDescription list = list := by
  cases list with
  | nil => rfl
  | cons info rest => rw [nameDefault, if_neg (named info (List.mem_cons_self _ _))]

/-! ### Separating clashes -/

/-- Two entries clash: they have the same display name and extra. -/
def Clash (a b : AudioDeviceInfo) : Prop := a.displayName = b.displayName ∧ a.displayNameExtra = b.displayNameExtra

instance : DecidableRel Clash := fun _ _ => inferInstanceAs (Decidable (_ ∧ _))

/-- A clash the suffixes are meant for: the entries are on different cards, or are different
devices of one card. -/
def Separable (a b : AudioDeviceInfo) : Prop := Clash a b → a.card ≠ b.card ∨ a.dev ≠ b.dev

instance : DecidableRel Separable := fun _ _ => inferInstanceAs (Decidable (_ → _))

/-- What the uniqueness check has recorded of a clash: both cards when they differ, and both
devices with their base names when the cards agree and the device numbers differ. -/
def Recorded (clashes : Clashes) (a b : AudioDeviceInfo) : Prop :=
  (a.card ≠ b.card → a.card ∈ clashes.cards ∧ b.card ∈ clashes.cards) ∧
    (a.card = b.card → a.dev ≠ b.dev →
      (baseName a.deviceName, a.card) ∈ clashes.devs ∧ (baseName b.deviceName, b.card) ∈ clashes.devs)

def Clashes.Sub (clashes clashes' : Clashes) : Prop := clashes.cards ⊆ clashes'.cards ∧ clashes.devs ⊆ clashes'.devs

theorem Clashes.Sub.trans {c c' c'' : Clashes} (first : c.Sub c') (second : c'.Sub c'') : c.Sub c'' :=
  ⟨first.1.trans second.1, first.2.trans second.2⟩

theorem Recorded.mono {c c' : Clashes} {a b : AudioDeviceInfo} (recorded : Recorded c a b) (sub : c.Sub c') :
    Recorded c' a b :=
  ⟨fun differ => (recorded.1 differ).imp (fun m => sub.1 m) (fun m => sub.1 m),
    fun same differ => (recorded.2 same differ).imp (fun m => sub.2 m) (fun m => sub.2 m)⟩

theorem clashWith_separable (a : AudioDeviceInfo) : ∀ (rest : List AudioDeviceInfo) (clashes : Clashes),
    (∀ b ∈ rest, Separable a b) →
      (clashWith a rest clashes).1 = a ∧ (clashWith a rest clashes).2.1 = rest ∧
        clashes.Sub (clashWith a rest clashes).2.2 ∧
        ∀ b ∈ rest, Clash a b → Recorded (clashWith a rest clashes).2.2 a b
  | [], clashes, _ => ⟨rfl, rfl, ⟨fun _ => id, fun _ => id⟩, nofun⟩
  | b :: rest, clashes, separable => by
    have later := fun clashes => clashWith_separable a rest clashes fun c member =>
      separable c (List.mem_cons_of_mem b member)
    unfold clashWith
    by_cases clash : a.displayName = b.displayName ∧ a.displayNameExtra = b.displayNameExtra
    · rw [if_pos clash]
      by_cases cards : a.card ≠ b.card
      · rw [if_pos cards]
        obtain ⟨first, rest_same, sub, recorded⟩ := later ⟨(clashes.cards.insert a.card).insert b.card, clashes.devs⟩
        exact ⟨first, congrArg (b :: ·) rest_same,
          ⟨fun _ m => sub.1 (List.mem_insert_of_mem (List.mem_insert_of_mem m)), sub.2⟩,
          List.forall_mem_cons.mpr ⟨fun _ => ⟨fun _ => ⟨sub.1 (List.mem_insert_of_mem (List.mem_insert_self _ _)),
            sub.1 (List.mem_insert_self _ _)⟩, fun same => absurd same cards⟩, recorded⟩⟩
      rw [if_neg cards]
      have devs : a.dev ≠ b.dev := ((separable b (List.mem_cons_self _ _)) clash).resolve_left cards
      rw [if_pos devs]
      obtain ⟨first, rest_same, sub, recorded⟩ := later ⟨clashes.cards,
        (clashes.devs.insert (baseName a.deviceName, a.card)).insert (baseName b.deviceName, b.card)⟩
      exact ⟨first, congrArg (b :: ·) rest_same,
        ⟨sub.1, fun _ m => sub.2 (List.mem_insert_of_mem (List.mem_insert_of_mem m))⟩,
        List.forall_mem_cons.mpr ⟨fun _ => ⟨fun differ => absurd differ cards, fun _ _ =>
          ⟨sub.2 (List.mem_insert_of_mem (List.mem_insert_self _ _)), sub.2 (List.mem_insert_self _ _)⟩⟩, recorded⟩⟩
    · rw [if_neg clash]
      obtain ⟨first, rest_same, sub, recorded⟩ := later clashes
      exact ⟨first, congrArg (b :: ·) rest_same, sub,
        List.forall_mem_cons.mpr ⟨fun clash' => absurd clash' clash, recorded⟩⟩

theorem nodup_insert {α : Type} [BEq α] [LawfulBEq α] {a : α} {l : List α} (nodup : l.Nodup) :
    (l.insert a).Nodup := by
  by_cases mem : a ∈ l
  · rwa [List.insert_of_mem mem]
  · rw [List.insert_of_not_mem mem]
    exact List.nodup_cons.mpr ⟨mem, nodup⟩

def Clashes.Nodup (clashes : Clashes) : Prop := clashes.cards.Nodup ∧ clashes.devs.Nodup

theorem clashWith_nodup (a : AudioDeviceInfo) :
    ∀ (rest : List AudioDeviceInfo) (clashes : Clashes), clashes.Nodup → (clashWith a rest clashes).2.2.Nodup
  | [], _, nodup => nodup
  | b :: rest, clashes, nodup => by
    unfold clashWith
    split
    · split
      · exact clashWith_nodup a rest _ ⟨nodup_insert (nodup_insert nodup.1), nodup.2⟩
      · split
        · exact clashWith_nodup a rest _ ⟨nodup.1, nodup_insert (nodup_insert nodup.2)⟩
        · exact clashWith_nodup _ rest _ nodup
    · exact clashWith_nodup a rest _ nodup

theorem clashPass_nodup : ∀ (fuel : Nat) (list : List AudioDeviceInfo) (clashes : Clashes),
    clashes.Nodup → (clashPass fuel list clashes).2.Nodup
  | 0, _, _, nodup => nodup
  | _ + 1, [], _, nodup => nodup
  | fuel + 1, a :: rest, clashes, nodup => clashPass_nodup fuel _ _ (clashWith_nodup a rest clashes nodup)

theorem clashPass_separable : ∀ (fuel : Nat) (list : List AudioDeviceInfo) (clashes : Clashes),
    list.length ≤ fuel → list.Pairwise Separable →
      (clashPass fuel list clashes).1 = list ∧ clashes.Sub (clashPass fuel list clashes).2 ∧
        list.Pairwise fun a b => Clash a b → Recorded (clashPass fuel list clashes).2 a b
  | 0, [], _, _, _ => ⟨rfl, ⟨fun _ => id, fun _ => id⟩, List.Pairwise.nil⟩
  | _ + 1, [], _, _, _ => ⟨rfl, ⟨fun _ => id, fun _ => id⟩, List.Pairwise.nil⟩
  | 0, _ :: _, _, short, _ => absurd short (by simp)
  | fuel + 1, a :: rest, clashes, short, separable => by
    obtain ⟨heads, tails⟩ := List.pairwise_cons.mp separable
    have inner := clashWith_separable a rest clashes heads
    rw [clashPass]
    generalize clashWith a rest clashes = result at inner ⊢
    obtain ⟨a', rest', clashes'⟩ := result
    dsimp only at inner ⊢
    obtain ⟨rfl, rfl, sub, recorded⟩ := inner
    obtain ⟨same, later_sub, later_recorded⟩ :=
      clashPass_separable fuel rest' clashes' (by simpa using short) tails
    exact ⟨by rw [same], sub.trans later_sub,
      List.pairwise_cons.mpr ⟨fun b member clash => (recorded b member clash).mono later_sub, later_recorded⟩⟩

/-- What the loop over one of the sets does to one entry, when the set has no repeats. -/
def suffixIfMember {α : Type} [DecidableEq α] (key : AudioDeviceInfo → α) (suffix : AudioDeviceInfo → AudioDeviceInfo)
    (xs : List α) (info : AudioDeviceInfo) : AudioDeviceInfo :=
  if key info ∈ xs then suffix info else info

theorem appendToMatching_eq {α : Type} [DecidableEq α] (key : AudioDeviceInfo → α)
    (suffix : AudioDeviceInfo → AudioDeviceInfo) (keeps : ∀ info, key (suffix info) = key info) :
    ∀ {xs : List α}, xs.Nodup → ∀ list, appendToMatching key suffix xs list = list.map (suffixIfMember key suffix xs)
  | [], _, list => by
    rw [appendToMatching, List.foldl_nil]
    exact (List.map_id'' (fun info => if_neg (List.not_mem_nil _)) list).symm
  | x :: xs, nodup, list => by
    rw [appendToMatching, List.foldl_cons, ← appendToMatching,
      appendToMatching_eq key suffix keeps (List.nodup_cons.mp nodup).2, List.map_map]
    refine List.map_congr_left fun info _ => ?_
    simp only [Function.comp, suffixIfMember]
    by_cases here : key info = x
    · subst here
      rw [if_pos rfl, keeps, if_neg (List.nodup_cons.mp nodup).1, if_pos (List.mem_cons_self _ _)]
    · simp [here]

theorem suffixIfMember_probed {α : Type} [DecidableEq α] (key : AudioDeviceInfo → α)
    (suffix : AudioDeviceInfo → AudioDeviceInfo) (xs : List α) (info : AudioDeviceInfo)
    (keeps : ∀ info, (suffix info).probed = info.probed) : (suffixIfMember key suffix xs info).probed = info.probed := by
  unfold suffixIfMember
  split
  · exact keeps info
  · rfl

theorem suffixIfMember_of_mem {α : Type} [DecidableEq α] {key : AudioDeviceInfo → α}
    {suffix : AudioDeviceInfo → AudioDeviceInfo} {xs : List α} {info : AudioDeviceInfo} (mem : key info ∈ xs) :
    suffixIfMember key suffix xs info = suffix info :=
  if_pos mem

/-- What the loop over `cardsToAppend` does to one entry. -/
def cardSuffix (cards : List (List Char)) (info : AudioDeviceInfo) : AudioDeviceInfo :=
  suffixIfMember AudioDeviceInfo.card (fun info => info.appendName info.card) cards info

/-- What the loop over `devsToAppend` does to one entry. -/
def devSuffix (devs : List (List Char × List Char)) (info : AudioDeviceInfo) : AudioDeviceInfo :=
  suffixIfMember (fun info => (baseName info.deviceName, info.card))
    (fun info => { info with displayNameExtra := info.displayNameExtra ++ " #".toList ++ info.dev }) devs info

theorem appendCards_eq {cards : List (List Char)} (nodup : cards.Nodup) (list : List AudioDeviceInfo) :
    appendCards cards list = list.map (cardSuffix cards) :=
  appendToMatching_eq AudioDeviceInfo.card (fun info => info.appendName info.card) (fun _ => rfl) nodup list

theorem appendDevs_eq {devs : List (List Char × List Char)} (nodup : devs.Nodup) (list : List AudioDeviceInfo) :
    appendDevs devs list = list.map (devSuffix devs) :=
  appendToMatching_eq (fun info => (baseName info.deviceName, info.card))
    (fun info => { info with displayNameExtra := info.displayNameExtra ++ " #".toList ++ info.dev }) (fun _ => rfl)
    nodup list

theorem cardSuffix_keeps (cards : List (List Char)) (info : AudioDeviceInfo) :
    (cardSuffix cards info).deviceName = info.deviceName ∧
      (cardSuffix cards info).displayNameExtra = info.displayNameExtra := by
  unfold cardSuffix suffixIfMember
  split <;> exact ⟨rfl, rfl⟩

theorem devSuffix_displayName (devs : List (List Char × List Char)) (info : AudioDeviceInfo) :
    (devSuffix devs info).displayName = info.displayName := by
  unfold devSuffix suffixIfMember
  split <;> rfl

theorem suffixes_separate {clashes : Clashes} {a b : AudioDeviceInfo} (separable : Separable a b) (clash : Clash a b)
    (recorded : Recorded clashes a b) :
    ¬Clash (devSuffix clashes.devs (cardSuffix clashes.cards a)) (devSuffix clashes.devs (cardSuffix clashes.cards b)) := by
  rintro ⟨names, extras⟩
  by_cases same_card : a.card = b.card
  · have devs_differ := (separable clash).resolve_left (not_not.mpr same_card)
    obtain ⟨in_a, in_b⟩ := recorded.2 same_card devs_differ
    have kept : ∀ info : AudioDeviceInfo, (cardSuffix clashes.cards info).deviceName = info.deviceName :=
      fun info => (cardSuffix_keeps clashes.cards info).1
    have card_kept : ∀ info : AudioDeviceInfo, (cardSuffix clashes.cards info).card = info.card :=
      fun info => congrArg (getParamFromName · "CARD".toList) (kept info)
    have dev_kept : ∀ info : AudioDeviceInfo, (cardSuffix clashes.cards info).dev = info.dev :=
      fun info => congrArg (getParamFromName · "DEV".toList) (kept info)
    rw [devSuffix, devSuffix, suffixIfMember_of_mem (by rwa [kept, card_kept]),
      suffixIfMember_of_mem (by rwa [kept, card_kept])] at extras
    rw [(cardSuffix_keeps _ a).2, (cardSuffix_keeps _ b).2, dev_kept, dev_kept, clash.2] at extras
    exact devs_differ (List.append_cancel_left extras)
  · obtain ⟨in_a, in_b⟩ := recorded.1 same_card
    rw [devSuffix_displayName, devSuffix_displayName, cardSuffix, cardSuffix, suffixIfMember_of_mem in_a,
      suffixIfMember_of_mem in_b] at names
    simp [AudioDeviceInfo.appendName, clash.1] at names
    exact same_card names

section Enumerate

variable (device : ProbeDevice) (addMissingChannels resolveChannels : AudioChannelLayout → AudioChannelLayout → AudioChannelLayout)

/-- `enumerateDevice` on `name`, then `rest`, whose entries follow the one it adds. -/
def enumerateThen (name description : List Char) (rest : ProbeRun (List AudioDeviceInfo × List Char)) :
    ProbeRun (List AudioDeviceInfo × List Char) := do
  let added ← enumerateDevice device addMissingChannels resolveChannels name description
  let (list, defaultDescription) ← rest
  pure (added.toList ++ list, defaultDescription)

/-- The loop over the hints: the entries `enumerateDevice` adds, in order, and
`defaultDescription`. -/
def enumerateHints : List Hint → List Char → ProbeRun (List AudioDeviceInfo × List Char)
  | [], defaultDescription => pure ([], defaultDescription)
  | hint :: hints, defaultDescription =>
    match hint.name with
    | none => enumerateHints hints defaultDescription
    | some name =>
      if (hint.io = none ∨ hint.io = some "Output".toList) ∧ name ≠ "null".toList then
        if name = "default".toList then
          enumerateHints hints (hint.desc.getD defaultDescription)
        else if baseName name = "front".toList then
          if name ≠ "front".toList then
            enumerateThen device addMissingChannels resolveChannels ('@' :: name.drop 5) (hint.desc.getD name)
              (enumerateHints hints defaultDescription)
          else enumerateHints hints defaultDescription
        else if baseName name ∉ skippedBases then
          enumerateThen device addMissingChannels resolveChannels name (hint.desc.getD name)
            (enumerateHints hints defaultDescription)
        else enumerateHints hints defaultDescription
      else enumerateHints hints defaultDescription

/-- `enumerateDevices()`, where `snd_device_name_hint` answers `hints`, `none` when it fails. -/
def enumerateDevices : Option (List Hint) → ProbeRun (List AudioDeviceInfo)
  | none => pure []
  | some hints => do
    let (list, defaultDescription) ← enumerateHints device addMissingChannels resolveChannels hints []
    pure (finishList defaultDescription list)

/-! ### Names -/

theorem probeDevice_named (deviceName : List Char) (deviceType : AudioDeviceType)
    (names : List Char × List Char × List StreamType × List AudioSampleFormat) (pcm : Option (List Char)) :
    Returns (probeDevice device addMissingChannels resolveChannels deviceName deviceType names pcm)
      fun r => ∀ info, r = .added info → info.deviceName = deviceName := by
  unfold probeDevice
  refine Returns.bind (Returns.any _) fun _ _ => Returns.bind (Returns.any _) fun detected _ => ?_
  obtain ⟨channels, pcm⟩ := detected
  dsimp only
  split
  · exact Returns.bind (Returns.any _) fun _ _ => Returns.pure nofun
  · refine Returns.bind (Returns.any _) fun _ _ => Returns.bind (Returns.any _) fun _ _ =>
      Returns.bind (Returns.any _) fun _ _ => ?_
    obtain ⟨_, _, _, _⟩ := names
    dsimp only
    split <;> exact Returns.pure fun _ same => by cases same; rfl

theorem enumeratePass_named (deviceName description : List Char) :
    Returns (enumeratePass device addMissingChannels resolveChannels deviceName description)
      fun r => ∀ info, r = .added info → info.deviceName = deviceName := by
  unfold enumeratePass
  refine Returns.bind (Returns.any _) fun opened _ => ?_
  obtain ⟨opened, pcm⟩ := opened
  dsimp only
  split
  · exact Returns.pure nofun
  · refine Returns.bind (Returns.any _) fun _ _ => Returns.bind (Returns.any _) fun _ _ => ?_
    split
    · exact Returns.bind (Returns.any _) fun _ _ => Returns.pure nofun
    · exact probeDevice_named device addMissingChannels resolveChannels _ _ _ _

theorem enumerateDevice_named (deviceName description : List Char) :
    Returns (enumerateDevice device addMissingChannels resolveChannels deviceName description)
      fun r => ∀ info, r = some info → info.deviceName = deviceName ∨ info.deviceName = ['@'] := by
  unfold enumerateDevice
  refine Returns.bind (enumeratePass_named device addMissingChannels resolveChannels deviceName description)
    fun r named => ?_
  cases r with
  | added info => exact Returns.pure fun _ same => by cases same; exact .inl (named info rfl)
  | skipped => exact Returns.pure nofun
  | asSurround =>
    refine Returns.bind (enumeratePass_named device addMissingChannels resolveChannels ['@'] description)
      fun r named => ?_
    cases r
    case added info => exact Returns.pure fun _ same => by cases same; exact .inr (named info rfl)
    all_goals exact Returns.pure nofun

theorem enumerateThen_named {name description : List Char} {rest : ProbeRun (List AudioDeviceInfo × List Char)}
    (named : name ≠ "default".toList)
    (rest_named : Returns rest fun r => ∀ info ∈ r.1, info.deviceName ≠ "default".toList) :
    Returns (enumerateThen device addMissingChannels resolveChannels name description rest)
      fun r => ∀ info ∈ r.1, info.deviceName ≠ "default".toList := by
  unfold enumerateThen
  refine Returns.bind (enumerateDevice_named device addMissingChannels resolveChannels name description)
    fun added added_named => Returns.bind rest_named fun r r_named => ?_
  obtain ⟨list, _⟩ := r
  refine Returns.pure fun info member => ?_
  rcases List.mem_append.mp member with here | later
  · rcases added_named info (Option.mem_toList.mp here) with same | same
    · rw [same]; exact named
    · rw [same]; decide
  · exact r_named info later

theorem enumerateHints_named : ∀ (hints : List Hint) (defaultDescription : List Char),
    Returns (enumerateHints device addMissingChannels resolveChannels hints defaultDescription)
      fun r => ∀ info ∈ r.1, info.deviceName ≠ "default".toList
  | [], _ => Returns.pure nofun
  | hint :: hints, defaultDescription => by
    unfold enumerateHints
    split
    · exact enumerateHints_named hints _
    split
    · split
      · exact enumerateHints_named hints _
      rename_i named
      split
      · split
        · exact enumerateThen_named device addMissingChannels resolveChannels
            (fun same => absurd (congrArg List.head? same) (by simp)) (enumerateHints_named hints _)
        · exact enumerateHints_named hints _
      · split
        · exact enumerateThen_named device addMissingChannels resolveChannels named (enumerateHints_named hints _)
        · exact enumerateHints_named hints _
    · exact enumerateHints_named hints _

/-- On every device and for every list of hints, `enumerateDevices` returns the entries of the hint
loop but the redundant `sysdefault` ones, renamed only, and none named "default". -/
theorem enumerateDevices_lists_enumerated (hints : List Hint) (calls : List ProbeCall) :
    let enumerated := (enumerateHints device addMissingChannels resolveChannels hints [] calls).1.1
    (enumerateDevices device addMissingChannels resolveChannels (some hints) calls).1.map AudioDeviceInfo.probed =
        (enumerated.filter fun info => !redundantSysdefault (cardsWithSurround enumerated) info).map
          AudioDeviceInfo.probed ∧
      (∀ info ∈ (enumerateDevices device addMissingChannels resolveChannels (some hints) calls).1,
        info.deviceName ≠ "default".toList) ∧
      ∀ defaultDescription, nameDefault defaultDescription enumerated = enumerated := by
  intro enumerated
  have named : ∀ info ∈ enumerated, info.deviceName ≠ "default".toList :=
    enumerateHints_named device addMissingChannels resolveChannels hints [] calls
  have kept : (enumerateDevices device addMissingChannels resolveChannels (some hints) calls).1.map
      AudioDeviceInfo.probed =
        (enumerated.filter fun info => !redundantSysdefault (cardsWithSurround enumerated) info).map
          AudioDeviceInfo.probed :=
    finishList_probed _ _
  refine ⟨kept, fun info member => ?_, nameDefault_of_named named⟩
  obtain ⟨info', member', same⟩ := List.mem_map.mp (kept ▸ List.mem_map_of_mem AudioDeviceInfo.probed member)
  have sameName : info'.deviceName = info.deviceName := (congrArg AudioDeviceInfo.deviceName same :)
  exact sameName ▸ named info' (List.mem_of_mem_filter member')

end Enumerate

end AlsaPassthroughSink
