import TokenService.Entity.Id

set_option autoImplicit false

namespace TokenService

-- A threshold counts the members that are active; a list asks for all of them.
inductive Key where
  | ed25519 (bytes : Bytes)
  | secp256k1 (bytes : Bytes)
  | contract (id : ContractId)
  | delegatable (id : ContractId)
  | list (keys : List Key)
  | threshold (needed : Nat) (keys : List Key)
  deriving Repr

namespace Key

instance : Inhabited Key := ⟨.list []⟩

mutual

def same : Key → Key → Bool
  | .ed25519 left, .ed25519 right => left == right
  | .secp256k1 left, .secp256k1 right => left == right
  | .contract left, .contract right => left == right
  | .delegatable left, .delegatable right => left == right
  | .list left, .list right => sameAll left right
  | .threshold needed left, .threshold wanted right => needed == wanted && sameAll left right
  | _, _ => false

def sameAll : List Key → List Key → Bool
  | [], [] => true
  | left :: lefts, right :: rights => same left right && sameAll lefts rights
  | _, _ => false

end

mutual

theorem same_iff (left right : Key) : same left right = true ↔ left = right := by
  cases left <;> cases right <;> simp [same, same_all_iff]

theorem same_all_iff (left right : List Key) : sameAll left right = true ↔ left = right := by
  cases left <;> cases right <;> simp [sameAll]
  rename_i first firsts second seconds
  rw [same_iff first second, same_all_iff firsts seconds]

end

instance : DecidableEq Key := fun left right => decidable_of_iff (same left right = true) (same_iff left right)

def isContractBound : Key → Bool
  | .contract _ => true
  | .delegatable _ => true
  | _ => false

end Key

inductive KeySlot where
  | admin
  | kyc
  | freeze
  | wipe
  | supply
  | feeSchedule
  | pause
  deriving DecidableEq, Repr

namespace KeySlot

def all : List KeySlot := [.admin, .kyc, .freeze, .wipe, .supply, .feeSchedule, .pause]

def bit : KeySlot → UInt64
  | .admin => 1
  | .kyc => 2
  | .freeze => 4
  | .wipe => 8
  | .supply => 16
  | .feeSchedule => 32
  | .pause => 64

def covered (slot : KeySlot) (mask : UInt64) : Bool := mask &&& slot.bit != 0

def ofMask? (mask : UInt64) : Option KeySlot := all.find? fun slot => slot.bit == mask

end KeySlot

structure TokenKeys where
  admin : Option Key := none
  kyc : Option Key := none
  freeze : Option Key := none
  wipe : Option Key := none
  supply : Option Key := none
  feeSchedule : Option Key := none
  pause : Option Key := none
  deriving DecidableEq, Repr, Inhabited

namespace TokenKeys

def get (keys : TokenKeys) : KeySlot → Option Key
  | .admin => keys.admin
  | .kyc => keys.kyc
  | .freeze => keys.freeze
  | .wipe => keys.wipe
  | .supply => keys.supply
  | .feeSchedule => keys.feeSchedule
  | .pause => keys.pause

def ofSlots (key : KeySlot → Option Key) : TokenKeys :=
  ⟨key .admin, key .kyc, key .freeze, key .wipe, key .supply, key .feeSchedule, key .pause⟩

@[simp] theorem get_of_slots (key : KeySlot → Option Key) (slot : KeySlot) : (ofSlots key).get slot = key slot := by
  cases slot <;> rfl

def assign (keys : TokenKeys) (mask : UInt64) (key : Key) : TokenKeys :=
  ofSlots fun slot => if slot.covered mask then some key else keys.get slot

def lookup (keys : TokenKeys) (mask : UInt64) : Option Key := (KeySlot.ofMask? mask).bind keys.get

def override (keys newer : TokenKeys) : TokenKeys := ofSlots fun slot => (newer.get slot).or (keys.get slot)

def filled (keys : TokenKeys) : List (KeySlot × Key) :=
  KeySlot.all.filterMap fun slot => (keys.get slot).map fun key => (slot, key)

end TokenKeys

end TokenService
