import Mathlib.Data.List.AList
import Mathlib.Logic.Equiv.List
import McpBridge.Admissions

/-!
The encrypted token store of the router (`secure.encryptedFileStore`). Every operation reads the whole file, and writes
it anew in place if it changes something.
-/
namespace McpBridge.EncryptedStores
open Admissions List

abbrev Bytes := List UInt8

abbrev Tokens := AList fun _ : String => String

def nonceSize : Nat := 12

/-- The libraries under the store: the JSON of a `tokenData`, whose map may be missing, and AES-GCM under its key. -/
structure Primitives where
  marshal : Tokens → Bytes
  unmarshal : Bytes → Except String (Option Tokens)
  gcmSeal : Bytes → Bytes → Bytes
  gcmOpen : Bytes → Bytes → Except String Bytes
  unmarshal_marshal : ∀ tokens, ∃ read, unmarshal (marshal tokens) = .ok (some read) ∧
    ∀ key, read.lookup key = tokens.lookup key
  gcmOpen_gcmSeal : ∀ nonce data, gcmOpen nonce (gcmSeal nonce data) = .ok data
  gcmOpen_take : ∀ nonce data n, n < (gcmSeal nonce data).length → ∃ err, gcmOpen nonce ((gcmSeal nonce data).take n) = .error err

/-- A nonce of the right size. -/
structure Nonce where
  bytes : Bytes
  size : bytes.length = nonceSize

inductive StoreError where
  | tokenNotFound
  | failed (text : String)
  deriving DecidableEq

/-- A write is done, fails before the file is touched, or stops when the file has been truncated and some bytes are in
    it. -/
inductive Write where
  | done
  | refused (err : String)
  | stopped (written : Nat) (err : String)

/-- What an operation meets outside: its nonce, the error of `os.ReadFile`, and its write. -/
structure Access where
  nonce : Nonce
  readErr : Option String := none
  write : Write := .done

section
variable (lib : Primitives)

def encrypt (nonce : Nonce) (data : Bytes) : Bytes := nonce.bytes ++ lib.gcmSeal nonce.bytes data

def decrypt (data : Bytes) : Except String Bytes :=
  if data.length < nonceSize then .error "ciphertext too short"
  else lib.gcmOpen (data.take nonceSize) (data.drop nonceSize)

/-- What `loadTokens` makes of the bytes that it has read. -/
def parse (encryptedData : Bytes) : Tokens :=
  if encryptedData = [] then ∅
  else
    match decrypt lib encryptedData with
    | .error _ => ∅
    | .ok decryptedData =>
      match lib.unmarshal decryptedData with
      | .error _ => ∅
      | .ok tokens => tokens.getD ∅

/-- A file that does not exist is not read. -/
def loadTokens (file : Option Bytes) (readErr : Option String) : Except StoreError Tokens :=
  match file,readErr with
  | none,_ => .ok ∅
  | some _,some err => .error (.failed ("failed to read token file: " ++ err))
  | some encryptedData,none => .ok (parse lib encryptedData)

/-- `saveTokens`, and the file after it. -/
def saveTokens (tokens : Tokens) (access : Access) (file : Option Bytes) : Except StoreError Unit × Option Bytes :=
  let encryptedData := encrypt lib access.nonce (lib.marshal tokens)
  match access.write with
  | .done => (.ok (),some encryptedData)
  | .refused err => (.error (.failed err),file)
  | .stopped written err => (.error (.failed err),some (encryptedData.take written))

def store (file : Option Bytes) (access : Access) (key token : String) : Except StoreError Unit × Option Bytes :=
  match loadTokens lib file access.readErr with
  | .error err => (.error err,file)
  | .ok data => saveTokens lib (data.insert key token) access file

def retrieve (file : Option Bytes) (readErr : Option String) (key : String) : Except StoreError String :=
  match loadTokens lib file readErr with
  | .error err => .error err
  | .ok data =>
    match data.lookup key with
    | none => .error .tokenNotFound
    | some token => .ok token

def delete (file : Option Bytes) (access : Access) (key : String) : Except StoreError Unit × Option Bytes :=
  match loadTokens lib file access.readErr with
  | .error err => (.error err,file)
  | .ok data => saveTokens lib (data.erase key) access file

def list (file : Option Bytes) (readErr : Option String) : Except StoreError (List String) :=
  (loadTokens lib file readErr).map AList.keys

/-- The operations of the store. -/
inductive Op where
  | store (key token : String)
  | retrieve (key : String)
  | delete (key : String)
  | list

inductive Result where
  | changed (result : Except StoreError Unit)
  | token (result : Except StoreError String)
  | keys (result : Except StoreError (List String))

def serve (file : Option Bytes) : Op × Access → Result × Option Bytes
  | (.store key token,access) => ((store lib file access key token).map .changed id)
  | (.retrieve key,access) => (.token (retrieve lib file access.readErr key),file)
  | (.delete key,access) => ((delete lib file access key).map .changed id)
  | (.list,access) => (.keys (list lib file access.readErr),file)

end

/-! ### What is in a file -/

section
variable {lib : Primitives} {file : Option Bytes} {access : Access} {tokens : Tokens} {key : String}

def contents (lib : Primitives) : Option Bytes → Tokens
  | none => ∅
  | some encryptedData => parse lib encryptedData

theorem loadTokens_readable : loadTokens lib file none = .ok (contents lib file) := by
  cases file <;> rfl

section
variable (nonce : Nonce) (data : Bytes)
include nonce data

theorem decrypt_encrypt : decrypt lib (encrypt lib nonce data) = .ok data := by
  unfold decrypt encrypt
  rw [← nonce.size,if_neg (by simp),take_left,drop_left]
  exact lib.gcmOpen_gcmSeal ..

theorem decrypt_take {n : Nat} (early : n < (encrypt lib nonce data).length) :
    ∃ err, decrypt lib ((encrypt lib nonce data).take n) = .error err := by
  unfold decrypt
  have size : (encrypt lib nonce data).length = nonceSize + (lib.gcmSeal nonce.bytes data).length := by
    rw [encrypt,length_append,nonce.size]
  by_cases short : n < nonceSize
  · rw [if_pos (by rw [length_take]; omega)]
    exact ⟨_,rfl⟩
  · obtain ⟨m,rfl⟩ := Nat.exists_eq_add_of_le (Nat.not_lt.mp short)
    rw [if_neg (by rw [length_take]; omega),encrypt,← nonce.size,take_length_add_append,take_left,drop_left]
    exact lib.gcmOpen_take _ _ _ (by omega)

end

theorem lookup_saved (nonce : Nonce) : (contents lib (some (encrypt lib nonce (lib.marshal tokens)))).lookup key =
    tokens.lookup key := by
  obtain ⟨read,parsed,same⟩ := lib.unmarshal_marshal tokens
  have full : encrypt lib nonce (lib.marshal tokens) ≠ [] := by
    intro empty
    have size := nonce.size
    rw [encrypt,append_eq_nil_iff] at empty
    rw [empty.1] at size
    cases size
  show (parse lib (encrypt lib nonce (lib.marshal tokens))).lookup key = _
  unfold parse
  rw [if_neg full,decrypt_encrypt]
  simp only [parsed,Option.getD_some]
  exact same key

theorem contents_torn (nonce : Nonce) {n : Nat} (early : n < (encrypt lib nonce (lib.marshal tokens)).length) :
    contents lib (some ((encrypt lib nonce (lib.marshal tokens)).take n)) = ∅ := by
  obtain ⟨err,rejected⟩ := decrypt_take nonce (lib.marshal tokens) early
  show parse lib ((encrypt lib nonce (lib.marshal tokens)).take n) = ∅
  unfold parse
  rw [rejected]
  exact ite_self _

theorem retrieve_readable : retrieve lib file none key = match (contents lib file).lookup key with
    | none => .error .tokenNotFound
    | some token => .ok token := by
  unfold retrieve
  rw [loadTokens_readable]

end

/-! ### What an operation does to a file -/

def Op.Saves : Op → Prop
  | .store .. | .delete _ => True
  | .retrieve _ | .list => False

def Op.key : Op → Option String
  | .store key _ | .delete key | .retrieve key => some key
  | .list => none

def Op.change : Op → Tokens → Tokens
  | .store key token => fun tokens => tokens.insert key token
  | .delete key => fun tokens => tokens.erase key
  | .retrieve _ | .list => id

/-- What an operation hands to `os.WriteFile`. -/
def written (lib : Primitives) (file : Option Bytes) (op : Op) (access : Access) : Bytes :=
  encrypt lib access.nonce (lib.marshal (op.change (contents lib file)))

/-- The operation gets to its write, which begins. -/
def Begins (lib : Primitives) (file : Option Bytes) (op : Op) (access : Access) : Prop :=
  op.Saves ∧ (∃ tokens, loadTokens lib file access.readErr = .ok tokens) ∧ ∀ err, access.write ≠ .refused err

/-- The write stops before the last byte. -/
def Torn (lib : Primitives) (file : Option Bytes) (op : Op) (access : Access) : Prop :=
  Begins lib file op access ∧ ∃ n err, access.write = .stopped n err ∧ n < (written lib file op access).length

section
variable {lib : Primitives} {file : Option Bytes} {op : Op} {access : Access} {key : String}

theorem loadTokens_eq {tokens : Tokens} {readErr : Option String} (loaded : loadTokens lib file readErr = .ok tokens) :
    tokens = contents lib file := by
  cases file with
  | none =>
    cases loaded
    rfl
  | some data =>
    cases readErr with
    | none =>
      cases loaded
      rfl
    | some err => cases loaded

/-- A file is left alone, or written as a whole, or torn. -/
inductive Effect (lib : Primitives) (file : Option Bytes) (op : Op) (access : Access) : Option Bytes → Prop where
  | kept (idle : ¬Begins lib file op access) : Effect lib file op access file
  | whole (begins : Begins lib file op access) (sound : ¬Torn lib file op access) :
      Effect lib file op access (some (written lib file op access))
  | torn {n : Nat} (torn : Torn lib file op access) (early : n < (written lib file op access).length) :
      Effect lib file op access (some ((written lib file op access).take n))

theorem saves_effect (saves : op.Saves) (loaded : loadTokens lib file access.readErr = .ok (contents lib file)) :
    Effect lib file op access (saveTokens lib (op.change (contents lib file)) access file).2 := by
  unfold saveTokens
  cases write : access.write with
  | done =>
    refine .whole ⟨saves,⟨_,loaded⟩,by simp [write]⟩ ?_
    rintro ⟨_,n,err,stopped,_⟩
    rw [write] at stopped
    cases stopped
  | refused err => exact .kept fun begins => begins.2.2 err write
  | stopped n err =>
    have begins : Begins lib file op access := ⟨saves,⟨_,loaded⟩,by simp [write]⟩
    by_cases early : n < (written lib file op access).length
    · exact .torn ⟨begins,n,err,write,early⟩ early
    · have all : (written lib file op access).take n = written lib file op access :=
        take_of_length_le (Nat.not_lt.mp early)
      show Effect lib file op access (some ((written lib file op access).take n))
      rw [all]
      refine .whole begins ?_
      rintro ⟨_,m,err',stopped,early'⟩
      rw [write] at stopped
      cases stopped
      exact early early'

theorem serve_effect (file : Option Bytes) (op : Op) (access : Access) :
    Effect lib file op access (serve lib file (op,access)).2 := by
  cases loaded : loadTokens lib file access.readErr with
  | error err =>
    have idle : ¬Begins lib file op access := by
      rintro ⟨_,⟨tokens,fine⟩,_⟩
      rw [loaded] at fine
      cases fine
    cases op with
    | store key token =>
      simp only [serve,store,loaded,Prod.map,id]
      exact .kept idle
    | delete key =>
      simp only [serve,delete,loaded,Prod.map,id]
      exact .kept idle
    | retrieve | list => exact .kept idle
  | ok tokens =>
    obtain rfl := loadTokens_eq loaded
    cases op with
    | store key token =>
      simp only [serve,store,loaded,Prod.map,id]
      exact @saves_effect lib file (.store key token) access trivial loaded
    | delete key =>
      simp only [serve,delete,loaded,Prod.map,id]
      exact @saves_effect lib file (.delete key) access trivial loaded
    | retrieve | list => exact .kept fun begins => begins.1

theorem change_other (other : op.key ≠ some key) (tokens : Tokens) : (op.change tokens).lookup key = tokens.lookup key := by
  cases op with
  | store k token => exact AList.lookup_insert_ne (Ne.symm fun same => other (congrArg some same))
  | delete k => exact AList.lookup_erase_ne (Ne.symm fun same => other (congrArg some same))
  | retrieve k => rfl
  | list => rfl

theorem lookup_other (sound : ¬Torn lib file op access) (other : Begins lib file op access → op.key ≠ some key) :
    (contents lib (serve lib file (op,access)).2).lookup key = (contents lib file).lookup key := by
  have effect : Effect lib file op access _ := serve_effect file op access
  generalize (serve lib file (op,access)).2 = file' at effect ⊢
  cases effect with
  | kept => rfl
  | whole begins => exact (lookup_saved access.nonce).trans (change_other (other begins) _)
  | torn torn => exact absurd torn sound

theorem torn_empty (torn : Torn lib file op access) : contents lib (serve lib file (op,access)).2 = ∅ := by
  have effect : Effect lib file op access _ := serve_effect file op access
  generalize (serve lib file (op,access)).2 = file' at effect ⊢
  cases effect with
  | kept idle => exact absurd torn.1 idle
  | whole begins sound => exact absurd torn sound
  | torn _ early => exact contents_torn access.nonce early

theorem saved_of_ok {tokens : Tokens} (saved : (saveTokens lib tokens access file).1 = .ok ()) :
    (saveTokens lib tokens access file).2 = some (encrypt lib access.nonce (lib.marshal tokens)) := by
  unfold saveTokens at saved ⊢
  cases write : access.write with
  | done => rfl
  | refused | stopped =>
    rw [write] at saved
    cases saved

theorem lookup_stored {token : String} (stored : (store lib file access key token).1 = .ok ()) (other : String) :
    (contents lib (store lib file access key token).2).lookup other =
      if other = key then some token else (contents lib file).lookup other := by
  unfold store at stored ⊢
  cases loaded : loadTokens lib file access.readErr with
  | error err =>
    rw [loaded] at stored
    cases stored
  | ok tokens =>
    obtain rfl := loadTokens_eq loaded
    rw [loaded] at stored
    simp only [saved_of_ok stored,lookup_saved]
    split
    next same => rw [same,AList.lookup_insert]
    next apart => exact AList.lookup_insert_ne apart

end

/-- The token of the last `Store` of the key that no `Delete` of it follows. -/
def lastStored (key : String) (ops : List Op) : Option String :=
  ops.foldl (fun last op => match op with
    | .store k token => if k = key then some token else last
    | .delete k => if k = key then none else last
    | .retrieve _ | .list => last) none

def faultless (call : Op × Nonce) : Op × Access := (call.1,{ nonce := call.2 })

section
variable {lib : Primitives} {file : Option Bytes} {key : String}

theorem faultless_sound (file : Option Bytes) (op : Op) (nonce : Nonce) : ¬Torn lib file op { nonce } := by
  rintro ⟨_,n,err,stopped,_⟩
  cases stopped

theorem lookup_faultless (file : Option Bytes) (op : Op) (nonce : Nonce) :
    (contents lib (serve lib file (faultless (op,nonce))).2).lookup key =
      (op.change (contents lib file)).lookup key := by
  have effect : Effect lib file op { nonce } _ := serve_effect file op { nonce }
  unfold faultless
  generalize (serve lib file (op,{ nonce })).2 = file' at effect ⊢
  cases effect with
  | kept idle =>
    cases op with
    | store | delete => exact absurd ⟨trivial,⟨_,loadTokens_readable⟩,by simp⟩ idle
    | retrieve k => rfl
    | list => rfl
  | whole => exact lookup_saved nonce
  | torn torn => exact absurd torn (faultless_sound file op nonce)

/-- The file stands for the map that the operations so far have made. -/
theorem lookup_after (fresh : file = none ∨ file = some []) (calls : List (Op × Nonce)) :
    (contents lib (after (serve lib) file (calls.map faultless))).lookup key = lastStored key (calls.map Prod.fst) := by
  induction calls using reverseRecOn with
  | nil =>
    rw [map_nil,after_nil]
    rcases fresh with rfl | rfl <;> rfl
  | append_singleton calls call ih =>
    obtain ⟨op,nonce⟩ := call
    rw [map_append,after_append,map_append,lastStored,foldl_append]
    show (contents lib (serve lib _ (faultless (op,nonce))).2).lookup key = _
    rw [lookup_faultless]
    cases op with
    | store k token =>
      by_cases same : k = key
      · subst same
        simp [Op.change]
      · simp only [Op.change,map_cons,map_nil,foldl_cons,foldl_nil,if_neg same]
        rw [AList.lookup_insert_ne (Ne.symm same),ih]
        rfl
    | delete k =>
      by_cases same : k = key
      · subst same
        simp [Op.change]
      · simp only [Op.change,map_cons,map_nil,foldl_cons,foldl_nil,if_neg same]
        rw [AList.lookup_erase_ne (Ne.symm same),ih]
        rfl
    | retrieve k => exact ih
    | list => exact ih

end

/-- With reads and writes that succeed, the store is a map from keys to tokens. -/
theorem store_refines_map (lib : Primitives) (file : Option Bytes) (fresh : file = none ∨ file = some [])
    (calls : List (Op × Nonce)) :
    (∀ key, retrieve lib (after (serve lib) file (calls.map faultless)) none key =
      match lastStored key (calls.map Prod.fst) with
      | none => .error .tokenNotFound
      | some token => .ok token) ∧
    (∃ keys, list lib (after (serve lib) file (calls.map faultless)) none = .ok keys ∧ keys.Nodup ∧
      ∀ key, key ∈ keys ↔ (lastStored key (calls.map Prod.fst)).isSome) ∧ ∀ op nonce key, op.key ≠ some key →
      retrieve lib (after (serve lib) file ((calls ++ [(op,nonce)]).map faultless)) none key =
        retrieve lib (after (serve lib) file (calls.map faultless)) none key := by
  refine ⟨fun key => ?_,?_,fun op nonce key other => ?_⟩
  · rw [retrieve_readable,lookup_after fresh]
  · refine ⟨(contents lib (after (serve lib) file (calls.map faultless))).keys,?_,AList.keys_nodup _,fun key => ?_⟩
    · rw [list,loadTokens_readable]
      rfl
    · rw [← @lookup_after lib _ _ fresh calls,AList.lookup_isSome]
      rfl
  · have kept : (contents lib (after (serve lib) file ((calls ++ [(op,nonce)]).map faultless))).lookup key =
        (contents lib (after (serve lib) file (calls.map faultless))).lookup key := by
      rw [map_append,after_append]
      exact lookup_other (faultless_sound _ op nonce) fun _ => other
    rw [retrieve_readable,retrieve_readable,kept]

/-! ### Writes that stop -/

/-- No write is torn and none of the key's operations gets to its write. -/
def Spared (lib : Primitives) (key : String) : Option Bytes → List (Op × Access) → Prop
  | _,[] => True
  | file,(op,access) :: rest =>
    ¬Torn lib file op access ∧ (Begins lib file op access → op.key ≠ some key) ∧
      Spared lib key (serve lib file (op,access)).2 rest

theorem lookup_spared {lib : Primitives} {key : String} {file : Option Bytes} {calls : List (Op × Access)}
    (spared : Spared lib key file calls) :
    (contents lib (after (serve lib) file calls)).lookup key = (contents lib file).lookup key := by
  induction calls generalizing file with
  | nil => rfl
  | cons call rest ih =>
    obtain ⟨sound,other,later⟩ := spared
    rw [after_cons,ih later]
    exact lookup_other sound other

theorem retrieve_of_lookup {lib : Primitives} {file : Option Bytes} {key token : String} (readErr : Option String)
    (present : (contents lib file).lookup key = some token) :
    retrieve lib file readErr key = .ok token ∨ ∃ text, retrieve lib file readErr key = .error (.failed text) := by
  unfold retrieve
  cases loaded : loadTokens lib file readErr with
  | ok tokens =>
    obtain rfl := loadTokens_eq loaded
    left
    simp [present]
  | error err =>
    cases file with
    | none => cases loaded
    | some data =>
      cases readErr with
      | none => cases loaded
      | some text =>
        cases loaded
        exact .inr ⟨_,rfl⟩

/-- A stored token is kept until its key is written again or a write stops early; after that all keys read as not found.
    A `Store` on a file that cannot be decrypted leaves only its own token. -/
theorem store_survives (lib : Primitives) : (∀ file before access key token later readErr,
      (store lib (after (serve lib) file before) access key token).1 = .ok () →
      Spared lib key (store lib (after (serve lib) file before) access key token).2 later →
      retrieve lib (after (serve lib) (store lib (after (serve lib) file before) access key token).2 later) readErr key =
          .ok token ∨
        ∃ text, retrieve lib (after (serve lib) (store lib (after (serve lib) file before) access key token).2 later) readErr
          key = .error (.failed text)) ∧ (∀ file op access key, Torn lib file op access →
      retrieve lib (serve lib file (op,access)).2 none key = .error .tokenNotFound) ∧
    ∀ data err access key token, decrypt lib data = .error err → (store lib (some data) access key token).1 = .ok () →
      ∀ other, retrieve lib (store lib (some data) access key token).2 none other =
        if other = key then .ok token else .error .tokenNotFound := by
  refine ⟨?_,?_,?_⟩
  · intro file before access key token later readErr stored spared
    apply retrieve_of_lookup
    rw [lookup_spared spared,lookup_stored stored,if_pos rfl]
  · intro file op access key torn
    rw [retrieve_readable,torn_empty torn]
    rfl
  · intro data err access key token rejected stored other
    have empty : contents lib (some data) = ∅ := by
      show parse lib data = ∅
      unfold parse
      rw [rejected]
      exact ite_self _
    rw [retrieve_readable,lookup_stored stored,empty]
    by_cases same : other = key <;> simp [same]

def codes (text : String) : List Nat := text.toList.map Char.toNat

def ofCodes (numbers : List Nat) : String := String.ofList (numbers.map Char.ofNat)

theorem ofCodes_codes (text : String) : ofCodes (codes text) = text := by
  unfold ofCodes codes
  rw [map_map]
  have same : Char.ofNat ∘ Char.toNat = id := funext Char.ofNat_toNat
  rw [same,map_id,String.ofList_toList]

def announced (data : Bytes) : Bytes := data.flatMap (fun b => [1,b]) ++ [0]

def heard : Bytes → Except String Bytes
  | [0] => .ok []
  | 1 :: b :: rest => (heard rest).map (b :: ·)
  | _ => .error "cipher: message authentication failed"

theorem heard_announced (data : Bytes) : heard (announced data) = .ok data := by
  induction data with
  | nil => rfl
  | cons b rest ih =>
    show (heard (announced rest)).map (b :: ·) = _
    rw [ih]
    rfl

theorem heard_take (data : Bytes) (n : Nat) (early : n < (announced data).length) :
    ∃ err, heard ((announced data).take n) = .error err := by
  induction data generalizing n with
  | nil =>
    have none : n = 0 := by simpa [announced] using early
    subst none
    exact ⟨_,rfl⟩
  | cons b rest ih =>
    match n with
    | 0 => exact ⟨_,rfl⟩
    | 1 => exact ⟨_,rfl⟩
    | n + 2 =>
      have early' : n < (announced rest).length := by
        simp only [announced,flatMap_cons,length_append,length_cons,length_nil] at early ⊢
        omega
      obtain ⟨err,rejected⟩ := ih n early'
      refine ⟨err,?_⟩
      show (heard ((announced rest).take n)).map (b :: ·) = _
      rw [rejected]
      rfl

def plain : Primitives where
  marshal tokens := replicate (Encodable.encode (tokens.entries.map fun entry => (codes entry.1,codes entry.2))) 0
  unmarshal data :=
    match (Encodable.decode data.length : Option (List (List Nat × List Nat))) with
    | none => .error "invalid number"
    | some pairs => .ok (some (pairs.map fun pair => (⟨ofCodes pair.1,ofCodes pair.2⟩ : (_ : String) × String)).toAList)
  gcmSeal _ data := announced data
  gcmOpen _ data := heard data
  unmarshal_marshal tokens := by
    refine ⟨_,by rw [length_replicate,Encodable.encodek],fun key => ?_⟩
    rw [AList.lookup_to_alist,map_map]
    have same : (fun pair : List Nat × List Nat => (⟨ofCodes pair.1,ofCodes pair.2⟩ : (_ : String) × String)) ∘
        (fun entry : (_ : String) × String => (codes entry.1,codes entry.2)) = id := by
      funext entry
      simp [ofCodes_codes]
    rw [same,map_id]
    rfl
  gcmOpen_gcmSeal _ data := heard_announced data
  gcmOpen_take _ data n early := heard_take data n early

def zeros : Nonce := ⟨replicate 12 0,rfl⟩

theorem store_refines_map_two : retrieve plain (after (serve plain) none (List.map faultless
        [(.store "a" "1",zeros),(.store "b" "2",zeros),(.store "a" "3",zeros),(.delete "b",zeros)])) none "a" = .ok "3" ∧
      retrieve plain (after (serve plain) none (List.map faultless
        [(.store "a" "1",zeros),(.store "b" "2",zeros),(.store "a" "3",zeros),(.delete "b",zeros)])) none "b" =
          .error .tokenNotFound := by
  have refines := (store_refines_map plain none (.inl rfl)
    [(.store "a" "1",zeros),(.store "b" "2",zeros),(.store "a" "3",zeros),(.delete "b",zeros)]).1
  exact ⟨refines "a",refines "b"⟩

theorem store_survives_second : retrieve plain (after (serve plain) (store plain none { nonce := zeros } "a" "1").2
        [(.store "b" "2",{ nonce := zeros }),(.store "a" "3",{ nonce := zeros,write := .refused "permission denied" })])
        none "a" = .ok "1" ∨ ∃ text, retrieve plain (after (serve plain) (store plain none { nonce := zeros } "a" "1").2
        [(.store "b" "2",{ nonce := zeros }),(.store "a" "3",{ nonce := zeros,write := .refused "permission denied" })])
        none "a" = .error (.failed text) := by
  refine (store_survives plain).1 none [] { nonce := zeros } "a" "1" _ none rfl ⟨faultless_sound _ _ _,?_,?_,?_,trivial⟩
  · exact fun _ => by decide
  · rintro ⟨⟨_,_,written⟩,_⟩
    exact written _ rfl
  · rintro ⟨_,_,written⟩
    exact absurd rfl (written _)

/-- A `Store` that stops before the first byte loses the token stored before; one on three bytes replaces them. -/
theorem torn_forgets : (store plain none { nonce := zeros } "a" "1").1 = .ok () ∧
      retrieve plain (store plain (store plain none { nonce := zeros } "a" "1").2
        { nonce := zeros,write := .stopped 0 "no space left on device" } "b" "2").2 none "a" = .error .tokenNotFound ∧
      (∃ err, decrypt plain [1,2,3] = .error err) ∧
      (store plain (some [1,2,3]) { nonce := zeros } "b" "2").2 ≠ some [1,2,3] := by
  refine ⟨rfl,rfl,⟨_,rfl⟩,fun same => ?_⟩
  have size := congrArg (Option.map length) same
  have long : (store plain (some [1,2,3]) { nonce := zeros } "b" "2").2 =
      some (encrypt plain zeros (plain.marshal ((contents plain (some [1,2,3])).insert "b" "2"))) := rfl
  rw [long,Option.map_some,encrypt,length_append,zeros.size,nonceSize] at size
  have count := Option.some.inj size
  simp only [length_cons,length_nil] at count
  omega

end McpBridge.EncryptedStores
