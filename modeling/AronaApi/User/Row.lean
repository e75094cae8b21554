import Mathlib.Data.Int.Notation
import Mathlib.Data.Nat.Notation

/-! User rows (`model/user.go`). Columns that no modelled function writes (third-party ids, usage
statistics, timestamps) are left out. -/
namespace AronaApi

structure User where
  username : String
  password : String
  displayName : String
  role : ℤ
  status : ℤ
  email : String
  quota : ℤ
  group : String
  affCode : String
  affCount : ℤ
  affQuota : ℤ
  affHistoryQuota : ℤ
  setting : String
  stripeCustomer : String
  deriving DecidableEq

namespace User

/-- `quota = quota + n`, computed by the database on the row it has locked. -/
def addQuota (n : ℤ) (u : User) : User := { u with quota := u.quota+n }

def blank (username : String) : User where
  username := username
  password := ""
  displayName := ""
  role := 1
  status := 1
  email := ""
  quota := 0
  group := "default"
  affCode := ""
  affCount := 0
  affQuota := 0
  affHistoryQuota := 0
  setting := ""
  stripeCustomer := ""
end User
end AronaApi
