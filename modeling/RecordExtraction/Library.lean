/-!
# The library

The name and the version that the library reports.
-/

namespace RecordExtraction
namespace Library

def name : String := "xmlfactory"

def version : String := "0.3.0"

end Library
end RecordExtraction
