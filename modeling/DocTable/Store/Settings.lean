/-!
What it takes to connect to a document store.
-/

namespace DocTable

structure StoreSettings where
  url : String
  user : String
  password : String
  database : String
  deriving DecidableEq, Repr

end DocTable
