import TealTools.Field

/-!
# Opcodes

The table of operations with their codes and the immediates that they take, in
encoding order.
-/

namespace TealTools

/-- What an immediate of an operation holds. -/
inductive ImmediateKind where
  | u8
  | i8
  | field (group : FieldGroup)
  | varuint
  | bytes
  | label
  | labels
  | intBlock
  | byteBlock
  deriving DecidableEq, Repr

structure Opcode where
  name : String
  code : UInt8
  immediates : List ImmediateKind
  deriving DecidableEq, Repr

namespace Opcode

/-- Every operation, in the order of the codes. -/
def all : List Opcode :=
  [⟨"err", 0x00, []⟩,
   ⟨"sha256", 0x01, []⟩,
   ⟨"keccak256", 0x02, []⟩,
   ⟨"sha512_256", 0x03, []⟩,
   ⟨"ed25519verify", 0x04, []⟩,
   ⟨"ecdsa_verify", 0x05, [.field .ecdsaCurve]⟩,
   ⟨"ecdsa_pk_decompress", 0x06, [.field .ecdsaCurve]⟩,
   ⟨"ecdsa_pk_recover", 0x07, [.field .ecdsaCurve]⟩,
   ⟨"+", 0x08, []⟩,
   ⟨"-", 0x09, []⟩,
   ⟨"/", 0x0A, []⟩,
   ⟨"*", 0x0B, []⟩,
   ⟨"<", 0x0C, []⟩,
   ⟨">", 0x0D, []⟩,
   ⟨"<=", 0x0E, []⟩,
   ⟨">=", 0x0F, []⟩,
   ⟨"&&", 0x10, []⟩,
   ⟨"||", 0x11, []⟩,
   ⟨"==", 0x12, []⟩,
   ⟨"!=", 0x13, []⟩,
   ⟨"!", 0x14, []⟩,
   ⟨"len", 0x15, []⟩,
   ⟨"itob", 0x16, []⟩,
   ⟨"btoi", 0x17, []⟩,
   ⟨"%", 0x18, []⟩,
   ⟨"|", 0x19, []⟩,
   ⟨"&", 0x1A, []⟩,
   ⟨"^", 0x1B, []⟩,
   ⟨"~", 0x1C, []⟩,
   ⟨"mulw", 0x1D, []⟩,
   ⟨"addw", 0x1E, []⟩,
   ⟨"divmodw", 0x1F, []⟩,
   ⟨"intcblock", 0x20, [.intBlock]⟩,
   ⟨"intc", 0x21, [.u8]⟩,
   ⟨"intc_0", 0x22, []⟩,
   ⟨"intc_1", 0x23, []⟩,
   ⟨"intc_2", 0x24, []⟩,
   ⟨"intc_3", 0x25, []⟩,
   ⟨"bytecblock", 0x26, [.byteBlock]⟩,
   ⟨"bytec", 0x27, [.u8]⟩,
   ⟨"bytec_0", 0x28, []⟩,
   ⟨"bytec_1", 0x29, []⟩,
   ⟨"bytec_2", 0x2A, []⟩,
   ⟨"bytec_3", 0x2B, []⟩,
   ⟨"arg", 0x2C, [.u8]⟩,
   ⟨"arg_0", 0x2D, []⟩,
   ⟨"arg_1", 0x2E, []⟩,
   ⟨"arg_2", 0x2F, []⟩,
   ⟨"arg_3", 0x30, []⟩,
   ⟨"txn", 0x31, [.field .txn]⟩,
   ⟨"global", 0x32, [.field .global]⟩,
   ⟨"gtxn", 0x33, [.u8, .field .txn]⟩,
   ⟨"load", 0x34, [.u8]⟩,
   ⟨"store", 0x35, [.u8]⟩,
   ⟨"txna", 0x36, [.field .txn, .u8]⟩,
   ⟨"gtxna", 0x37, [.u8, .field .txn, .u8]⟩,
   ⟨"gtxns", 0x38, [.field .txn]⟩,
   ⟨"gtxnsa", 0x39, [.field .txn, .u8]⟩,
   ⟨"gload", 0x3A, [.u8, .u8]⟩,
   ⟨"gloads", 0x3B, [.u8]⟩,
   ⟨"gaid", 0x3C, [.u8]⟩,
   ⟨"gaids", 0x3D, []⟩,
   ⟨"loads", 0x3E, []⟩,
   ⟨"stores", 0x3F, []⟩,
   ⟨"bnz", 0x40, [.label]⟩,
   ⟨"bz", 0x41, [.label]⟩,
   ⟨"b", 0x42, [.label]⟩,
   ⟨"return", 0x43, []⟩,
   ⟨"assert", 0x44, []⟩,
   ⟨"bury", 0x45, [.u8]⟩,
   ⟨"popn", 0x46, [.u8]⟩,
   ⟨"dupn", 0x47, [.u8]⟩,
   ⟨"pop", 0x48, []⟩,
   ⟨"dup", 0x49, []⟩,
   ⟨"dup2", 0x4A, []⟩,
   ⟨"dig", 0x4B, [.u8]⟩,
   ⟨"swap", 0x4C, []⟩,
   ⟨"select", 0x4D, []⟩,
   ⟨"cover", 0x4E, [.u8]⟩,
   ⟨"uncover", 0x4F, [.u8]⟩,
   ⟨"concat", 0x50, []⟩,
   ⟨"substring", 0x51, [.u8, .u8]⟩,
   ⟨"substring3", 0x52, []⟩,
   ⟨"getbit", 0x53, []⟩,
   ⟨"setbit", 0x54, []⟩,
   ⟨"getbyte", 0x55, []⟩,
   ⟨"setbyte", 0x56, []⟩,
   ⟨"extract", 0x57, [.u8, .u8]⟩,
   ⟨"extract3", 0x58, []⟩,
   ⟨"extract_uint16", 0x59, []⟩,
   ⟨"extract_uint32", 0x5A, []⟩,
   ⟨"extract_uint64", 0x5B, []⟩,
   ⟨"replace2", 0x5C, [.u8]⟩,
   ⟨"replace3", 0x5D, []⟩,
   ⟨"base64_decode", 0x5E, [.field .base64Encoding]⟩,
   ⟨"json_ref", 0x5F, [.field .jsonRef]⟩,
   ⟨"balance", 0x60, []⟩,
   ⟨"app_opted_in", 0x61, []⟩,
   ⟨"app_local_get", 0x62, []⟩,
   ⟨"app_local_get_ex", 0x63, []⟩,
   ⟨"app_global_get", 0x64, []⟩,
   ⟨"app_global_get_ex", 0x65, []⟩,
   ⟨"app_local_put", 0x66, []⟩,
   ⟨"app_global_put", 0x67, []⟩,
   ⟨"app_local_del", 0x68, []⟩,
   ⟨"app_global_del", 0x69, []⟩,
   ⟨"asset_holding_get", 0x70, [.field .assetHolding]⟩,
   ⟨"asset_params_get", 0x71, [.field .assetParams]⟩,
   ⟨"app_params_get", 0x72, [.field .appParams]⟩,
   ⟨"acct_params_get", 0x73, [.field .acctParams]⟩,
   ⟨"min_balance", 0x78, []⟩,
   ⟨"pushbytes", 0x80, [.bytes]⟩,
   ⟨"pushint", 0x81, [.varuint]⟩,
   ⟨"pushbytess", 0x82, [.byteBlock]⟩,
   ⟨"pushints", 0x83, [.intBlock]⟩,
   ⟨"ed25519verify_bare", 0x84, []⟩,
   ⟨"callsub", 0x88, [.label]⟩,
   ⟨"retsub", 0x89, []⟩,
   ⟨"proto", 0x8A, [.u8, .u8]⟩,
   ⟨"frame_dig", 0x8B, [.i8]⟩,
   ⟨"frame_bury", 0x8C, [.i8]⟩,
   ⟨"switch", 0x8D, [.labels]⟩,
   ⟨"match", 0x8E, [.labels]⟩,
   ⟨"shl", 0x90, []⟩,
   ⟨"shr", 0x91, []⟩,
   ⟨"sqrt", 0x92, []⟩,
   ⟨"bitlen", 0x93, []⟩,
   ⟨"exp", 0x94, []⟩,
   ⟨"expw", 0x95, []⟩,
   ⟨"bsqrt", 0x96, []⟩,
   ⟨"divw", 0x97, []⟩,
   ⟨"sha3_256", 0x98, []⟩,
   ⟨"b+", 0xA0, []⟩,
   ⟨"b-", 0xA1, []⟩,
   ⟨"b/", 0xA2, []⟩,
   ⟨"b*", 0xA3, []⟩,
   ⟨"b<", 0xA4, []⟩,
   ⟨"b>", 0xA5, []⟩,
   ⟨"b<=", 0xA6, []⟩,
   ⟨"b>=", 0xA7, []⟩,
   ⟨"b==", 0xA8, []⟩,
   ⟨"b!=", 0xA9, []⟩,
   ⟨"b%", 0xAA, []⟩,
   ⟨"b|", 0xAB, []⟩,
   ⟨"b&", 0xAC, []⟩,
   ⟨"b^", 0xAD, []⟩,
   ⟨"b~", 0xAE, []⟩,
   ⟨"bzero", 0xAF, []⟩,
   ⟨"log", 0xB0, []⟩,
   ⟨"itxn_begin", 0xB1, []⟩,
   ⟨"itxn_field", 0xB2, [.field .txn]⟩,
   ⟨"itxn_submit", 0xB3, []⟩,
   ⟨"itxn", 0xB4, [.field .txn]⟩,
   ⟨"itxna", 0xB5, [.field .txn, .u8]⟩,
   ⟨"itxn_next", 0xB6, []⟩,
   ⟨"gitxn", 0xB7, [.u8, .field .txn]⟩,
   ⟨"gitxna", 0xB8, [.u8, .field .txn, .u8]⟩,
   ⟨"box_create", 0xB9, []⟩,
   ⟨"box_extract", 0xBA, []⟩,
   ⟨"box_replace", 0xBB, []⟩,
   ⟨"box_del", 0xBC, []⟩,
   ⟨"box_len", 0xBD, []⟩,
   ⟨"box_get", 0xBE, []⟩,
   ⟨"box_put", 0xBF, []⟩,
   ⟨"txnas", 0xC0, [.field .txn]⟩,
   ⟨"gtxnas", 0xC1, [.u8, .field .txn]⟩,
   ⟨"gtxnsas", 0xC2, [.field .txn]⟩,
   ⟨"args", 0xC3, []⟩,
   ⟨"gloadss", 0xC4, []⟩,
   ⟨"itxnas", 0xC5, [.field .txn]⟩,
   ⟨"gitxnas", 0xC6, [.u8, .field .txn]⟩,
   ⟨"vrf_verify", 0xD0, [.field .vrfStandard]⟩,
   ⟨"block", 0xD1, [.field .block]⟩]

def ofName? (name : String) : Option Opcode :=
  all.find? fun opcode => opcode.name = name

/-- Pushes a byte string. -/
def pushBytesCode : UInt8 := 0x80

/-- Pushes an integer. -/
def pushIntCode : UInt8 := 0x81

/-- The names of transaction types and completion actions, which stand for an
integer wherever one is expected. -/
def intNames : List (String × Nat) :=
  [("unknown", 0), ("NoOp", 0), ("pay", 1), ("OptIn", 1), ("keyreg", 2),
   ("CloseOut", 2), ("acfg", 3), ("ClearState", 3), ("axfer", 4),
   ("UpdateApplication", 4), ("afrz", 5), ("DeleteApplication", 5),
   ("appl", 6), ("stpf", 7)]

def namedInt? (name : String) : Option Nat :=
  intNames.lookup name

end Opcode

end TealTools
